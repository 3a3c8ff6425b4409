/-
Module: IccvBackend.Proofs.RegistrationEdit
Purpose: What an edit of a participant's groups destroys.
Trusted boundary: none
Main exports: PreservaInscricao, NadaAPerder, updateUserFromEvent_preserva_iff
-/
import IccvBackend.Lib.Transitions
import IccvBackend.System

namespace IccvBackend

open Lib

/-!
The edit deletes the registration and registers again.  Everything that hangs on the registration
leaves with it: role registrations, their payments, the items and checkouts of these.  What the
second half writes is new, so a kept role keeps nothing.
-/

/-- The approval of a minor, as the registration holds it. -/
structure Aprovacao where
  status : MinorApprovalStatus
  signedTermUrl : Option String
  reviewedById : Option Id
  reviewedAt : Option Instant
  rejectionReason : Option String
deriving Repr, DecidableEq

def EventOnUsers.aprovacao (row : EventOnUsers) : Aprovacao where
  status := row.minorApprovalStatus
  signedTermUrl := row.signedTermUrl
  reviewedById := row.minorApprovalReviewedById
  reviewedAt := row.minorApprovalReviewedAt
  rejectionReason := row.minorApprovalRejectionReason

/-- The approval of a registration that was just made. -/
def aprovacaoNova (user : User) (event : Event) : Aprovacao where
  status := minorApprovalStatusFor user event
  signedTermUrl := none
  reviewedById := none
  reviewedAt := none
  rejectionReason := none

/-- The roles of the new list that the person held keep registration and payment, no paid payment
of the event is deleted, and the data of the registration stay. -/
structure PreservaInscricao (antes depois : Database) (userId eventId : Id) (roles : List Id) :
    Prop where
  inscricao : ∀ held ∈ antes.rolesOf userId eventId, held.roleRegistrationId ∈ roles →
    held ∈ depois.rolesOf userId eventId
  pagamento : ∀ held ∈ antes.rolesOf userId eventId, held.roleRegistrationId ∈ roles →
    ∀ p ∈ antes.payments, Database.ticketOf userId eventId [held] p = true → p ∈ depois.payments
  pagos : ∀ p ∈ antes.payments, p.eventId = some eventId → p.status = .paid →
    ∃ q ∈ depois.payments, q.id = p.id
  dados : ∀ row, antes.registration? userId eventId = some row →
    ∃ row', depois.registration? userId eventId = some row' ∧
      row'.termsAcceptedAt = row.termsAcceptedAt ∧ row'.certificateCode = row.certificateCode ∧
      row'.aprovacao = row.aprovacao

/-- There is nothing that the deletion takes away for good. -/
structure NadaAPerder (db : Database) (userId eventId : Id) (roles : List Id) : Prop where
  semMantidas : ∀ held ∈ db.rolesOf userId eventId, held.roleRegistrationId ∈ roles →
    held.discountId = none ∧
      ∀ p ∈ db.payments, Database.ticketOf userId eventId [held] p = false
  semPagos : ∀ p ∈ db.payments,
    Database.ticketOf userId eventId (db.rolesOf userId eventId) p = true → p.status ≠ .paid
  semDados : ∀ row user event, db.registration? userId eventId = some row →
    db.catalogue.user? userId = some user → db.catalogue.event? eventId = some event →
      row.termsAcceptedAt = none ∧ row.certificateCode = none ∧
        row.aprovacao = aprovacaoNova user event

/-! ### The state after the edit -/

/-- Nothing of the person in this event is left after the deletion. -/
theorem registration?_deleteRegistration (db : Database) (userId eventId : Id) :
    (db.deleteRegistration userId eventId).registration? userId eventId = none := by
  simp only [Database.deleteRegistration, Database.registration?, List.find?_eq_none,
    List.mem_filter]
  rintro row ⟨_, kept⟩
  simpa only [Bool.not_eq_true', Bool.not_eq_true] using kept

/-- What an edit leaves: the payments that are not tickets of the person and new ones, and a new
registration with the roles of the list. -/
structure Editou (db : Database) (userId eventId : Id) (roles : List Id) (agora : Instant)
    (user : User) (event : Event) (depois : Database) : Prop where
  found_user : db.catalogue.user? userId = some user
  found_event : db.catalogue.event? eventId = some event
  kept : ∀ p ∈ db.payments,
    Database.ticketOf userId eventId (db.rolesOf userId eventId) p = false → p ∈ depois.payments
  origin : ∀ q ∈ depois.payments, db.nextId ≤ q.id ∨ q ∈ db.payments ∧
    Database.ticketOf userId eventId (db.rolesOf userId eventId) q = false
  registration : ∃ held, depois.registration? userId eventId =
      some { Database.newRegistration userId eventId (minorApprovalStatusFor user event) none with
        rolesRegistration := held } ∧
    ∀ row, row ∈ held ↔ row.discountId = none ∧ row.roleRegistrationId ∈ roles

theorem updateUserFromEvent_editou {quando : Instant → String} {db : Database}
    {userId eventId : Id} {roles : List Id} {agora : Instant}
    {result : Database × List (Id × ResultType)}
    (ok : updateUserFromEvent quando db userId eventId roles agora = .ok result) :
    ∃ user event, Editou db userId eventId roles agora user event result.1 := by
  obtain ⟨_, ⟨user, event, registrou⟩, no_waitlist⟩ := updateUserFromEvent_ok ok
  refine ⟨user, event, registrou.found_user, registrou.found_event, ?_, ?_, ?_⟩
  · intro p mem other
    obtain ⟨novos, payments, _⟩ := registrou.payments
    rw [payments]
    exact List.mem_append_left _ (List.mem_filter.mpr ⟨mem, by simp [other]⟩)
  · intro q mem
    rcases registrou.new_ticket mem with old | ⟨_, _, id, fresh, rfl⟩
    · obtain ⟨in_db, other⟩ := List.mem_filter.mp old
      exact .inr ⟨in_db, by simpa using other⟩
    · exact .inl fresh
  · have length := registrou.roles_length
    have loop := registrou.result
    have named := registrou.named
    set request : RegistrationRequest := ⟨userId, eventId, roles, false, false, agora⟩
    set deleted := db.deleteRegistration userId eventId
    set count := deleted.countInGroup request.eventId
    -- a full group would have left a result of the waiting list
    have vacancy : ∀ role ∈ request.roles deleted.catalogue, lotado count role = false := by
      intro role mem
      have results := foldl_registerRole_results request
        (minorApprovalStatusFor user event) count
        (request.roles deleted.catalogue) (deleted, [])
      rw [← loop, List.nil_append] at results
      have listed := no_waitlist _ (results ▸ List.mem_map_of_mem mem)
      by_contra full
      simp [full] at listed
    have ids : ∀ id, id ∈ (request.roles deleted.catalogue).map (fun role => role.2.id) ↔
        id ∈ roles := by
      have nodup : ((request.roles deleted.catalogue).map fun role => role.2.id).Nodup := by
        have all := deleted.catalogue.roles_nodup
        rw [← Catalogue.map_id_roles] at all
        exact all.sublist (List.filter_sublist.map _)
      have sub : (request.roles deleted.catalogue).map (fun role => role.2.id) ⊆ roles := by
        intro id mem
        obtain ⟨role, role_mem, rfl⟩ := List.mem_map.mp mem
        have := (List.mem_filter.mp role_mem).2
        simp only [Bool.and_eq_true, decide_eq_true_eq] at this
        exact this.1
      have perm := (List.subperm_of_subset nodup sub).perm_of_length_le
        (by rw [List.length_map]; exact length.ge)
      exact fun id => perm.mem_iff
    cases found : request.roles deleted.catalogue with
    | nil =>
        rw [found] at length
        exact absurd (List.length_eq_zero_iff.mp length.symm) named
    | cons role rest =>
        rw [found] at loop vacancy ids
        obtain ⟨row, first, fresh, _⟩ := registration?_inscrever deleted request
          (minorApprovalStatusFor user event) role.2
        obtain rfl := fresh (registration?_deleteRegistration db userId eventId)
        have open_first := vacancy role List.mem_cons_self
        have others := foldl_registerRole_registration request
          (minorApprovalStatusFor user event) count rfl rest
          (registerRole request (minorApprovalStatusFor user event) count (deleted, []) role)
          (fun other mem => vacancy other (List.mem_cons_of_mem _ mem))
        simp only [registerRole, open_first, Bool.false_eq_true, if_false] at others
        rw [loop, List.foldl_cons]
        simp only [registerRole, open_first, Bool.false_eq_true, if_false]
        have whole := others _ first
        let held := fun other : GroupRoles × RolesRegistration =>
          ({ roleRegistrationId := other.2.id, discountId := none } : EventOnUsersRolesRegistration)
        refine ⟨(role :: rest).map held, whole, fun row => ?_⟩
        rw [← ids row.roleRegistrationId]
        constructor
        · intro mem
          obtain ⟨other, other_mem, rfl⟩ := List.mem_map.mp mem
          exact ⟨rfl, List.mem_map_of_mem other_mem⟩
        · rintro ⟨no_discount, mem⟩
          obtain ⟨other, other_mem, same⟩ := List.mem_map.mp mem
          refine List.mem_map.mpr ⟨other, other_mem, ?_⟩
          change EventOnUsersRolesRegistration.mk other.2.id none = row
          rw [← no_discount, same]

/-! ### The exact condition -/

section Exact

variable {db depois : Database} {userId eventId : Id} {roles : List Id} {agora : Instant}
  {user : User} {event : Event}

/-- A ticket of one held role is a ticket of all of them. -/
theorem ticketOf_of_held {held : EventOnUsersRolesRegistration}
    {all : List EventOnUsersRolesRegistration} (mem : held ∈ all) {p : Payment}
    (ticket : Database.ticketOf userId eventId [held] p = true) :
    Database.ticketOf userId eventId all p = true := by
  simp only [Database.ticketOf, Bool.and_eq_true, List.any_eq_true, List.mem_singleton,
    exists_eq_left] at ticket ⊢
  exact ⟨ticket.1, held, mem, ticket.2⟩

/-- A ticket of the person does not survive the edit. -/
theorem Editou.ticket_gone (editou : Editou db userId eventId roles agora user event depois)
    {p : Payment} (mem : p ∈ db.payments)
    (ticket : Database.ticketOf userId eventId (db.rolesOf userId eventId) p = true) :
    ∀ q ∈ depois.payments, q.id ≠ p.id := by
  intro q q_mem same
  rcases editou.origin q q_mem with fresh | ⟨q_in, other⟩
  · exact absurd fresh (same ▸ not_le.mpr (db.payments_keyed.lt_next p mem))
  · rw [db.eq_of_id_eq q_in mem same, ticket] at other
    exact absurd other (by decide)

theorem Editou.rolesOf (editou : Editou db userId eventId roles agora user event depois)
    (held : EventOnUsersRolesRegistration) :
    held ∈ depois.rolesOf userId eventId ↔
      held.discountId = none ∧ held.roleRegistrationId ∈ roles := by
  obtain ⟨rows, found, exactly⟩ := editou.registration
  simp [Database.rolesOf, found, exactly]

theorem Editou.preserva_iff (editou : Editou db userId eventId roles agora user event depois) :
    PreservaInscricao db depois userId eventId roles ↔ NadaAPerder db userId eventId roles := by
  obtain ⟨rows, found, _⟩ := editou.registration
  constructor
  · intro keeps
    refine ⟨fun held mem kept => ⟨?_, fun p p_mem => ?_⟩, fun p p_mem ticket paid => ?_,
      fun row user' event' row_found user_found event_found => ?_⟩
    · exact ((editou.rolesOf held).mp (keeps.inscricao held mem kept)).1
    · by_contra ticket
      have ticket : Database.ticketOf userId eventId [held] p = true := by simpa using ticket
      exact editou.ticket_gone p_mem (ticketOf_of_held mem ticket) p
        (keeps.pagamento held mem kept p p_mem ticket) rfl
    · have of_event : p.eventId = some eventId := by
        simp only [Database.ticketOf, Bool.and_eq_true, decide_eq_true_eq] at ticket
        exact ticket.1.2
      obtain ⟨q, q_mem, same⟩ := keeps.pagos p p_mem of_event paid
      exact editou.ticket_gone p_mem ticket q q_mem same
    · obtain rfl := Option.some.inj (user_found.symm.trans editou.found_user)
      obtain rfl := Option.some.inj (event_found.symm.trans editou.found_event)
      obtain ⟨row', row'_found, terms, certificate, approval⟩ := keeps.dados row row_found
      obtain rfl := Option.some.inj (row'_found.symm.trans found)
      exact ⟨terms.symm, certificate.symm, approval.symm⟩
  · intro nothing
    refine ⟨fun held mem kept => ?_, fun held mem kept p p_mem ticket => ?_,
      fun p p_mem of_event paid => ?_, fun row row_found => ?_⟩
    · exact (editou.rolesOf held).mpr ⟨(nothing.semMantidas held mem kept).1, kept⟩
    · rw [(nothing.semMantidas held mem kept).2 p p_mem] at ticket
      exact absurd ticket (by decide)
    · refine ⟨p, editou.kept p p_mem ?_, rfl⟩
      by_contra ticket
      exact nothing.semPagos p p_mem (by simpa using ticket) paid
    · obtain ⟨terms, certificate, approval⟩ :=
        nothing.semDados row user event row_found editou.found_user editou.found_event
      exact ⟨_, found, terms.symm, certificate.symm, approval.symm⟩

end Exact

/-- **Edits of a registration.**  An edit that goes through keeps what is kept exactly when there
was nothing to lose. -/
theorem updateUserFromEvent_preserva_iff {quando : Instant → String} {db : Database}
    {userId eventId : Id} {roles : List Id} {agora : Instant}
    {result : Database × List (Id × ResultType)}
    (ok : updateUserFromEvent quando db userId eventId roles agora = .ok result) :
    PreservaInscricao db result.1 userId eventId roles ↔ NadaAPerder db userId eventId roles := by
  obtain ⟨user, event, editou⟩ := updateUserFromEvent_editou ok
  exact editou.preserva_iff

/-! ### The edit that loses a payment -/

namespace Loja

/-- A person registers and pays, and the panel records it. -/
def inscritoPago : Database :=
  (runFrom (step ambiente) (aberta .pagbank 100 none)
    [inscricao 3 1000, edicao 100 .paid, .resume 0 (resposta 1000 [] 500),
      .resume 0 (resposta 1000 [] 500)]).db

/-- The same list of roles goes through. -/
theorem edit_inscritoPago_isOk :
    ∃ result, updateUserFromEvent ambiente.quando inscritoPago 3 5 [7] 2000 = .ok result := by
  have isOk : (updateUserFromEvent ambiente.quando inscritoPago 3 5 [7] 2000).isOk = true := by
    decide +kernel
  cases result : updateUserFromEvent ambiente.quando inscritoPago 3 5 [7] 2000 with
  | error => simp [result, Except.isOk, Except.toBool] at isOk
  | ok edited => exact ⟨edited, rfl⟩

/-- The paid ticket of a role that is kept is deleted. -/
theorem perdeOPago {result : Database × List (Id × ResultType)}
    (ok : updateUserFromEvent ambiente.quando inscritoPago 3 5 [7] 2000 = .ok result) :
    ¬ PreservaInscricao inscritoPago result.1 3 5 [7] := by
  intro keeps
  obtain ⟨user, event, editou⟩ := updateUserFromEvent_editou ok
  have paid : ∃ p ∈ inscritoPago.payments, p.eventId = some 5 ∧ p.status = .paid ∧
      Database.ticketOf 3 5 (inscritoPago.rolesOf 3 5) p = true := by decide +kernel
  obtain ⟨p, mem, of_event, is_paid, ticket⟩ := paid
  obtain ⟨q, q_mem, same⟩ := keeps.pagos p mem of_event is_paid
  exact editou.ticket_gone mem ticket q q_mem same

end Loja

theorem not_preserva_inscritoPago :
    ∃ result, updateUserFromEvent Loja.ambiente.quando Loja.inscritoPago 3 5 [7] 2000 =
        .ok result ∧ ¬ PreservaInscricao Loja.inscritoPago result.1 3 5 [7] := by
  obtain ⟨result, ok⟩ := Loja.edit_inscritoPago_isOk
  exact ⟨result, ok, Loja.perdeOPago ok⟩

/-- Before that edit there was something to lose. -/
theorem updateUserFromEvent_preserva_iff_inscritoPago :
    ¬ NadaAPerder Loja.inscritoPago 3 5 [7] := by
  intro nothing
  obtain ⟨result, ok⟩ := Loja.edit_inscritoPago_isOk
  exact Loja.perdeOPago ok ((updateUserFromEvent_preserva_iff ok).mpr nothing)

end IccvBackend
