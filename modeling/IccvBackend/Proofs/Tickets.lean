/-
Module: IccvBackend.Proofs.Tickets
Purpose: Every ticket payment has its role registration, in every state of every run.
Trusted boundary: none
Main exports: Database.papeis, Payment.Inscrita, inscritas_step, eventUserRole_of_inscrita
-/
import IccvBackend.Proofs.Rows

namespace IccvBackend

open Lib

/-!
A ticket payment points at a role registration of its person, and the schema deletes the payment
with it.  The model has no foreign keys, so that a ticket never loses its role registration is an
invariant: registrations only add roles, a discount edit keeps them, and a deletion takes the
tickets along.
-/

/-- The ids of the roles a person holds in an event. -/
def Database.papeis (db : Database) (userId eventId : Id) : List Id :=
  (db.rolesOf userId eventId).map EventOnUsersRolesRegistration.roleRegistrationId

/-- A ticket points at a role registration of its person, of a role of the catalogue. -/
def Payment.Inscrita (db : Database) (p : Payment) : Prop :=
  ∀ roleId, p.roleRegistrationId = some roleId →
    ∃ userId eventId, p.userId = some userId ∧ p.eventId = some eventId ∧
      roleId ∈ db.papeis userId eventId

/-! ### The roles of a person after a write -/

section Papeis

variable {db depois : Database} {userId eventId userId' eventId' : Id}

theorem papeis_congr (same : depois.eventOnUsers = db.eventOnUsers) (userId eventId : Id) :
    depois.papeis userId eventId = db.papeis userId eventId := by
  simp only [Database.papeis, Database.rolesOf, Database.registration?, same]

/-- A write on one registration leaves the others alone. -/
theorem registration?_modifyRegistration_of_ne {f : EventOnUsers → EventOnUsers}
    (same_keys : ∀ row, (f row).userId = row.userId ∧ (f row).eventId = row.eventId)
    (ne : ¬ (userId' = userId ∧ eventId' = eventId)) :
    (db.modifyRegistration userId eventId f).registration? userId' eventId' =
      db.registration? userId' eventId' := by
  unfold Database.modifyRegistration Database.registration?
  dsimp only
  induction db.eventOnUsers with
  | nil => rfl
  | cons row rows ih =>
      simp only [List.map_cons, List.find?_cons]
      by_cases other : row.userId = userId' ∧ row.eventId = eventId'
      · obtain ⟨rfl, rfl⟩ := other
        have untouched :
            (decide (row.userId = userId) && decide (row.eventId = eventId)) = false := by
          simpa using ne
        simp [untouched]
      · have key : ∀ r : EventOnUsers, r.userId = row.userId ∧ r.eventId = row.eventId →
            (decide (r.userId = userId') && decide (r.eventId = eventId')) = false := by
          rintro r ⟨same_user, same_event⟩
          simpa [same_user, same_event] using other
        rw [key row ⟨rfl, rfl⟩, ih]
        by_cases here : (decide (row.userId = userId) && decide (row.eventId = eventId)) = true
        · rw [if_pos here, key _ (same_keys row)]
        · rw [if_neg here, key row ⟨rfl, rfl⟩]

/-- A write that takes no role from a registration takes no role from anybody. -/
theorem papeis_modifyRegistration (f : EventOnUsers → EventOnUsers)
    (same_keys : ∀ row, (f row).userId = row.userId ∧ (f row).eventId = row.eventId)
    (more : ∀ row, row.rolesRegistration.map EventOnUsersRolesRegistration.roleRegistrationId ⊆
      (f row).rolesRegistration.map EventOnUsersRolesRegistration.roleRegistrationId) :
    db.papeis userId' eventId' ⊆
      (db.modifyRegistration userId eventId f).papeis userId' eventId' := by
  unfold Database.papeis Database.rolesOf
  by_cases here : userId' = userId ∧ eventId' = eventId
  · obtain ⟨rfl, rfl⟩ := here
    rw [registration?_modifyRegistration _ _ _ same_keys]
    cases db.registration? userId' eventId' with
    | none => exact List.Subset.refl _
    | some row => exact more row
  · rw [registration?_modifyRegistration_of_ne same_keys here]
    exact List.Subset.refl _

theorem papeis_upsertRegistration (userId eventId : Id) (minor : MinorApprovalStatus)
    (aceite : Option Instant) :
    db.papeis userId' eventId' ⊆
      (db.upsertRegistration userId eventId minor aceite).papeis userId' eventId' := by
  unfold Database.upsertRegistration
  split
  · exact papeis_modifyRegistration _ (fun _ => ⟨rfl, rfl⟩) fun _ => List.Subset.refl _
  · unfold Database.papeis Database.rolesOf Database.registration?
    rw [List.find?_append]
    cases db.eventOnUsers.find? fun row => row.userId = userId' && row.eventId = eventId' with
    | some row => exact List.Subset.refl _
    | none => exact List.nil_subset _

/-- A registered role is added to what was held. -/
theorem papeis_inscrever (db : Database) (request : RegistrationRequest)
    (minor : MinorApprovalStatus) (role : RolesRegistration) :
    (∀ userId eventId,
      db.papeis userId eventId ⊆ (db.inscrever request minor role).papeis userId eventId) ∧
      role.id ∈ (db.inscrever request minor role).papeis request.userId request.eventId := by
  constructor
  · intro userId eventId
    refine List.Subset.trans (papeis_upsertRegistration request.userId request.eventId minor
      (if request.aceitouTermo then some request.agora else none)) ?_
    exact papeis_modifyRegistration (fun row => { row with
      rolesRegistration := row.rolesRegistration ++ [⟨role.id, none⟩] }) (fun _ => ⟨rfl, rfl⟩)
        fun row => by simp
  · obtain ⟨row, found, _⟩ := registration?_inscrever db request minor role
    simp [Database.papeis, Database.rolesOf, found]

/-- The loop of a registration keeps the roles held, and adds the roles with a vacancy. -/
theorem papeis_foldl_registerRole (request : RegistrationRequest) (minor : MinorApprovalStatus)
    (count : Id → Nat) (roles : List (GroupRoles × RolesRegistration)) :
    ∀ state : Database × List (Id × ResultType),
      (∀ userId eventId, state.1.papeis userId eventId ⊆
        (roles.foldl (registerRole request minor count) state).1.papeis userId eventId) ∧
      ∀ role ∈ roles.filter fun role => !lotado count role,
        role.2.id ∈ (roles.foldl (registerRole request minor count) state).1.papeis request.userId
          request.eventId := by
  induction roles with
  | nil => exact fun state => ⟨fun _ _ => List.Subset.refl _, fun role mem => nomatch mem⟩
  | cons role roles ih =>
      intro state
      obtain ⟨kept, added⟩ := ih (registerRole request minor count state role)
      rw [List.foldl_cons]
      by_cases full : lotado count role = true
      · have same : ∀ userId eventId, (registerRole request minor count state role).1.papeis userId
            eventId = state.1.papeis userId eventId := by
          rw [registerRole, if_pos full]
          exact papeis_congr rfl
        rw [List.filter_cons_of_neg (by simp [full])]
        exact ⟨fun userId eventId => same userId eventId ▸ kept userId eventId, added⟩
      · have registered : (registerRole request minor count state role).1 =
            state.1.inscrever request minor role.2 := by rw [registerRole, if_neg full]
        obtain ⟨more, new⟩ := papeis_inscrever state.1 request minor role.2
        rw [List.filter_cons_of_pos (by simp [full])]
        refine ⟨fun userId eventId roleId held =>
          kept userId eventId (registered ▸ more userId eventId held), fun other mem => ?_⟩
        rcases List.mem_cons.mp mem with rfl | mem
        · exact kept _ _ (registered ▸ new)
        · exact added other mem

theorem Registrou.papeis {request : RegistrationRequest} {user : User} {event : Event}
    {result : Database × List (Id × ResultType)}
    (registrou : Registrou db request user event result) :
    (∀ userId eventId, db.papeis userId eventId ⊆ result.1.papeis userId eventId) ∧
      ∀ role ∈ request.comVaga db, role.2.id ∈ result.1.papeis request.userId request.eventId := by
  rw [registrou.result]
  exact papeis_foldl_registerRole request _ _ _ (db, [])

/-- Deleting a registration takes no role from the others. -/
theorem papeis_filter (rows : depois.eventOnUsers =
      db.eventOnUsers.filter fun row => !(row.userId = userId && row.eventId = eventId))
    (ne : ¬ (userId' = userId ∧ eventId' = eventId)) :
    depois.papeis userId' eventId' = db.papeis userId' eventId' := by
  unfold Database.papeis Database.rolesOf Database.registration?
  rw [rows, List.find?_filter]
  congr 4
  funext row
  by_cases other : row.userId = userId' ∧ row.eventId = eventId'
  · obtain ⟨rfl, rfl⟩ := other
    simpa using not_and_or.mp ne
  · simpa using fun user event => absurd ⟨user, event⟩ other

end Papeis

/-! ### The invariant -/

section Step

variable {db depois : Database}

/-- Rows of `db` with their ticket, after a write that takes no role from anybody. -/
theorem inscrita_of_same {p q : Payment} (inscrita : p.Inscrita db)
    (user : q.userId = p.userId) (event : q.eventId = p.eventId)
    (role : q.roleRegistrationId = p.roleRegistrationId)
    (more : ∀ userId eventId, db.papeis userId eventId ⊆ depois.papeis userId eventId) :
    q.Inscrita depois := by
  intro roleId ticket
  obtain ⟨userId, eventId, of_user, in_event, held⟩ := inscrita roleId (role ▸ ticket)
  exact ⟨userId, eventId, user.trans of_user, event.trans in_event, more userId eventId held⟩

theorem Registrou.inscritas {request : RegistrationRequest} {user : User} {event : Event}
    {result : Database × List (Id × ResultType)}
    (registrou : Registrou db request user event result)
    (inscritas : ∀ p ∈ db.payments, p.Inscrita db) :
    ∀ q ∈ result.1.payments, q.Inscrita result.1 := by
  intro q mem
  rcases registrou.new_ticket mem with old | ⟨role, role_mem, id, fresh, rfl⟩
  · exact inscrita_of_same (inscritas q old) rfl rfl rfl registrou.papeis.1
  · intro roleId ticket
    obtain rfl : role.2.id = roleId := Option.some.inj ticket
    exact ⟨request.userId, request.eventId, rfl, rfl, registrou.papeis.2 role role_mem⟩

/-- Tickets of a registration go with it. -/
theorem inscritas_delete (userId eventId : Id) (inscritas : ∀ p ∈ db.payments, p.Inscrita db)
    (rows : depois.eventOnUsers =
      db.eventOnUsers.filter fun row => !(row.userId = userId && row.eventId = eventId))
    (left : ∀ q ∈ depois.payments, q ∈ db.payments ∧
      ∀ roleId, q.roleRegistrationId = some roleId → roleId ∈ db.papeis userId eventId →
        ¬ (q.userId = some userId ∧ q.eventId = some eventId)) :
    ∀ q ∈ depois.payments, q.Inscrita depois := by
  intro q mem roleId ticket
  obtain ⟨old, gone⟩ := left q mem
  obtain ⟨userId', eventId', of_user, in_event, held⟩ := inscritas q old roleId ticket
  refine ⟨userId', eventId', of_user, in_event, ?_⟩
  by_cases here : userId' = userId ∧ eventId' = eventId
  · obtain ⟨rfl, rfl⟩ := here
    exact absurd ⟨of_user, in_event⟩ (gone roleId ticket held)
  · rw [papeis_filter rows here]
    exact held

theorem papeis_setDiscount {p : Payment} {discountId : Id}
    (ok : db.setDiscount p discountId = .ok depois) (userId eventId : Id) :
    db.papeis userId eventId ⊆ depois.papeis userId eventId := by
  unfold Database.setDiscount at ok
  split at ok
  · split at ok
    · rw [← pure_eq_ok_iff.mp ok]
      refine papeis_modifyRegistration _ (fun _ => ⟨rfl, rfl⟩) fun row => ?_
      intro roleId mem
      obtain ⟨held, held_mem, rfl⟩ := List.mem_map.mp mem
      refine List.mem_map.mpr ⟨_, List.mem_map_of_mem held_mem, ?_⟩
      split <;> rfl
    · exact absurd ok throw_ne_ok
  · exact absurd ok throw_ne_ok

theorem papeis_updatePaymentStatusTx {lido : Payment} {dto : UpdatePaymentStatusDto}
    (ok : updatePaymentStatusTx db lido dto = .ok depois) (userId eventId : Id) :
    db.papeis userId eventId ⊆ depois.papeis userId eventId := by
  unfold updatePaymentStatusTx at ok
  simp only [bind_eq_ok_iff, orFail_eq_ok_iff] at ok
  obtain ⟨reativado, reactivation, atual, _, rest⟩ := ok
  have same : reativado.eventOnUsers = db.eventOnUsers := by
    rcases reativarSePreciso_ok reactivation with ⟨_, rfl⟩ | ⟨_, r, reativou, _⟩
    · rfl
    · exact reativou.eventOnUsers
  rw [← papeis_congr same userId eventId]
  split at rest
  · exact papeis_setDiscount rest userId eventId
  · rw [← pure_eq_ok_iff.mp rest]
    exact List.Subset.refl _

/-- A stretch of a task takes no role from anybody, unless it removes a registration. -/
theorem papeis_gravou {resposta : Resposta} {task : Task} (gravou : Gravou db resposta task depois)
    (keeps : ∀ userId eventId, task ≠ .removeWrite userId eventId) (userId eventId : Id) :
    db.papeis userId eventId ⊆ depois.papeis userId eventId := by
  have of_same : depois.eventOnUsers = db.eventOnUsers →
      db.papeis userId eventId ⊆ depois.papeis userId eventId := fun same =>
    papeis_congr same userId eventId ▸ List.Subset.refl _
  cases gravou with
  | reativou ok =>
      obtain ⟨reativado, r, reativou, rfl, _⟩ := reativarCheckout_ok ok
      exact of_same reativou.eventOnUsers
  | criou read ok =>
      refine of_same ?_
      rw [(gravarCheckout_ok ok).2]
      rfl
  | editou ok => exact papeis_updatePaymentStatusTx ok userId eventId
  | estornou ok =>
      refine of_same ?_
      rw [refundPaymentTx_ok ok]
      rfl
  | removeu => exact absurd rfl (keeps _ _)
  | reconciliou =>
      refine of_same ?_
      unfold gravarCobranca
      dsimp only
      split <;> rfl
  | _ => exact of_same rfl

/-- Rows that come from rows of `db`, or have no ticket. -/
theorem inscrita_of_origem {e : Efeito} {q : Payment} (inscritas : ∀ p ∈ db.payments, p.Inscrita db)
    (origem : Origem db e q) (no_tickets : e.novos = [])
    (more : ∀ userId eventId, db.papeis userId eventId ⊆ depois.papeis userId eventId) :
    q.Inscrita depois := by
  cases origem with
  | mantido p mem same =>
      exact inscrita_of_same (inscritas p mem) same.userId same.eventId same.roleRegistrationId more
  | cortado p mem ids same _ =>
      exact inscrita_of_same (inscritas p mem) same.userId same.eventId same.roleRegistrationId more
  | juntado p mem _ rows total _ _ same =>
      exact inscrita_of_same (inscritas p mem) same.userId same.eventId same.roleRegistrationId more
  | cobrado p mem ids row _ _ same =>
      exact inscrita_of_same (inscritas p mem) same.userId same.eventId same.roleRegistrationId more
  | inscrito role mem => exact absurd (no_tickets ▸ mem) List.not_mem_nil
  | comprado fresh no_ticket =>
      intro roleId ticket
      exact nomatch no_ticket.symm.trans ticket

end Step

/-- One step keeps every ticket registered. -/
theorem inscritas_step (amb : Ambiente) (w : World) (action : Action)
    (inscritas : ∀ p ∈ w.db.payments, p.Inscrita w.db) :
    ∀ q ∈ (step amb w action).db.payments, q.Inscrita (step amb w action).db := by
  have passo := step_passo amb w action
  have origem := passo_origem passo
  generalize (step amb w action).db = depois at passo origem ⊢
  cases passo with
  | inscreveu ok =>
      obtain ⟨_, _, registrou⟩ := registerUserInEvent_ok ok
      exact registrou.inscritas inscritas
  | @trocou userId eventId roles agora result ok =>
      obtain ⟨_, ⟨_, _, registrou⟩, _⟩ := updateUserFromEvent_ok ok
      refine registrou.inscritas (inscritas_delete userId eventId inscritas rfl fun q mem => ?_)
      obtain ⟨old, stays⟩ := List.mem_filter.mp mem
      refine ⟨old, fun roleId ticket held ⟨of_user, in_event⟩ => ?_⟩
      obtain ⟨row, row_mem, same⟩ := List.mem_map.mp held
      have gone : Database.ticketOf userId eventId (w.db.rolesOf userId eventId) q = true := by
        simp only [Database.ticketOf, of_user, in_event, ticket, decide_true, Bool.true_and]
        exact List.any_eq_true.mpr ⟨row, row_mem, by simp [same]⟩
      simp [gone] at stays
  | @seguiu i resposta task _ found gravou =>
      by_cases removes : ∃ userId eventId, task = .removeWrite userId eventId
      · obtain ⟨userId, eventId, rfl⟩ := removes
        cases gravou with
        | nada => exact inscritas
        | removeu =>
            refine inscritas_delete userId eventId inscritas rfl fun q mem => ?_
            obtain ⟨old, stays⟩ := List.mem_filter.mp mem
            refine ⟨old, fun roleId ticket _ ⟨of_user, in_event⟩ => ?_⟩
            simp [of_user, in_event, ticket] at stays
      · have keeps : ∀ userId eventId, task ≠ .removeWrite userId eventId :=
          fun userId eventId same => removes ⟨userId, eventId, same⟩
        exact fun q mem => inscrita_of_origem inscritas (origem q mem) rfl
          (papeis_gravou gravou keeps)
  | comprou ok =>
      obtain ⟨pedido, _, _, _, _, rfl⟩ := comprarProdutos_ok ok
      exact fun q mem => inscrita_of_origem inscritas (origem q mem) rfl fun userId eventId =>
        papeis_congr (gravarCompra_eventOnUsers _ _ _) userId eventId ▸ List.Subset.refl _
  | @avisou notice _ ok =>
      have same : depois.eventOnUsers = w.db.eventOnUsers := by
        rcases updatePaymentWebhook_cases w.db notice with
          ⟨_, failed⟩ | ⟨first, rest, _, ⟨_, same⟩ | ⟨_, status, rfl, written, rfl, wrote⟩⟩
        · exact nomatch failed.symm.trans ok
        · rw [← Except.ok.inj (same.symm.trans ok)]
        · rw [← Except.ok.inj (wrote.symm.trans ok)]
          split <;> rfl
      exact fun q mem => inscrita_of_origem inscritas (origem q mem) rfl fun userId eventId =>
        papeis_congr same userId eventId ▸ List.Subset.refl _
  | avisouCheckout ok =>
      rw [updatePaymentCheckoutWebhook_ok ok] at origem ⊢
      exact fun q mem => inscrita_of_origem inscritas (origem q mem) rfl
        fun userId eventId => List.Subset.refl _
  | parado => exact inscritas
  | precoDoIngresso | precoDoProduto | reordenou =>
      exact fun q mem => inscrita_of_origem inscritas (origem q mem) rfl
        fun userId eventId => List.Subset.refl _

/-- The ticket of a registered payment is read with its role. -/
theorem eventUserRole_of_inscrita {db : Database} {p : Payment} (inscrita : p.Inscrita db)
    {roleId : Id} {role : RolesRegistration} (ticket : p.roleRegistrationId = some roleId)
    (found : db.catalogue.role? roleId = some role) :
    ∃ discount, db.eventUserRole p = some (role, discount) := by
  obtain ⟨userId, eventId, of_user, in_event, held⟩ := inscrita roleId ticket
  unfold Database.papeis Database.rolesOf at held
  cases registration : db.registration? userId eventId with
  | none => simp [registration] at held
  | some row =>
      simp only [registration, Option.map_some, Option.getD_some] at held
      obtain ⟨held_row, mem, same⟩ := List.mem_map.mp held
      cases search : row.rolesRegistration.find? fun row => row.roleRegistrationId = roleId with
      | none => exact absurd same (by simpa using List.find?_eq_none.mp search held_row mem)
      | some first =>
          refine ⟨first.discountId.bind db.catalogue.discount?, ?_⟩
          simp only [Database.eventUserRole, of_user, in_event, ticket, registration, search, found,
            Option.bind_eq_bind, Option.bind_some]
          rfl

end IccvBackend
