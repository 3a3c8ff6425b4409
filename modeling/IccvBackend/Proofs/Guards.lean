/-
Module: IccvBackend.Proofs.Guards
Purpose: What the two guards of the event routes let through.
Trusted boundary: none
Main exports: Painel.Autorizado, Painel.PerfilResponde, guardas_iff, not_autorizado_rebaixada
-/
import IccvBackend.Auth.Guards

namespace IccvBackend

open Lib

/-! ### The law -/

namespace Painel

variable (db : Painel)

/-- The person has a link that holds with the church of the event, in a role of the list, or is a
treasurer or an admin of this event on a route that takes each. -/
def VinculoAqui (rota : Rota) (userId : Id) (evento : EventoDaIgreja) : Prop :=
  (∃ v ∈ db.churchRoles, v.userId = userId ∧ v.churchId = evento.churchId ∧
    v.role ∈ rota.roles ∧ db.vale evento.churchId) ∨
  (rota.aceitaTesoureiro ∧ ∃ v ∈ db.eventTreasurers, v.userId = userId ∧ v.eventId = evento.id) ∨
  (Role.admin ∈ rota.roles ∧ rota.aceitaAdminDoEvento ∧
    ∃ v ∈ db.eventAdmins, v.userId = userId ∧ v.eventId = evento.id)

/-- A super admin or a dev of the list, or a person with a link here. -/
def Autorizado (rota : Rota) (userId : Id) (evento : EventoDaIgreja) : Prop :=
  (∃ p, db.pessoa? userId = some p ∧ p.role ∈ Role.superAdminRoles ∧ p.role ∈ rota.roles) ∨
    db.VinculoAqui rota userId evento

/-- Both guards let the request through. -/
def Passa (rota : Rota) (pedido : RequisicaoDeEvento) : Prop :=
  db.rolesGuard rota pedido = .ok () ∧ db.eventTenantGuard rota pedido = .ok ()

/-- The stored role says whether to cut by church, being a global or a church one, or the effective
profile does not open the route. -/
def PerfilResponde (rota : Rota) (p : Pessoa) : Prop :=
  p.role ∈ Role.superAdminRoles ∨ p.role ∈ Role.churchRoles ∨
    perfilEfetivo (db.tenant? p.id) ∉ rota.roles

end Painel

/-! ### The guards -/

section Guardas

variable {db : Painel} {rota : Rota} {pedido : RequisicaoDeEvento} {userId : Id}
  {evento : EventoDaIgreja} {p : Pessoa}

theorem tenant?_eq (found : db.pessoa? userId = some p) :
    db.tenant? userId = some ⟨p.role, db.vinculosQueValem userId⟩ := by
  simp [Painel.tenant?, found]

theorem mem_vinculosQueValem {v : VinculoDeIgreja} :
    v ∈ db.vinculosQueValem userId ↔
      ⟨userId, v.churchId, v.role⟩ ∈ db.churchRoles ∧ db.vale v.churchId := by
  simp only [Painel.vinculosQueValem, Painel.vinculosDe, List.mem_filter, List.mem_map,
    decide_eq_true_eq]
  constructor
  · rintro ⟨⟨row, ⟨mem, rfl⟩, rfl⟩, vale⟩
    exact ⟨mem, vale⟩
  · rintro ⟨mem, vale⟩
    exact ⟨⟨⟨userId, v.churchId, v.role⟩, ⟨mem, rfl⟩, rfl⟩, vale⟩

/-- A profile that is not global comes from the stored role only through the links. -/
theorem perfilEfetivo_of_superAdmin {requester : TenantRequester}
    (global : requester.role ∈ Role.superAdminRoles) :
    perfilEfetivo (some requester) = requester.role := by
  simp [perfilEfetivo, global]

/-- A link found by the guard is one with the event. -/
theorem temVinculoDaqui_ok (resolve : db.resolveEventId pedido = .ok (some evento.id))
    (deIgreja : rota.roles ≠ [])
    (ok : db.temVinculoDaqui rota pedido userId = .ok true) :
    db.VinculoAqui rota userId evento := by
  unfold Painel.temVinculoDaqui at ok
  dsimp only at ok
  split at ok
  · cases ok
  · simp only [resolve, bind, Except.bind, pure, Except.pure, Except.ok.injEq, Bool.or_eq_true,
      Bool.and_eq_true, decide_eq_true_eq, deIgreja, false_or] at ok
    rcases ok with ⟨aceita, kind⟩ | ⟨⟨lists, aceita⟩, admin⟩
    · refine .inr (.inl ⟨aceita, ?_⟩)
      unfold Painel.tesoureiroDoEvento at kind
      rw [Option.isSome_map, List.find?_isSome] at kind
      obtain ⟨v, mem, here⟩ := kind
      simp only [Bool.and_eq_true, decide_eq_true_eq] at here
      exact ⟨v, mem, here.1⟩
    · refine .inr (.inr ⟨lists, aceita, ?_⟩)
      obtain ⟨v, mem, here⟩ := List.any_eq_true.mp admin
      simp only [Bool.and_eq_true, decide_eq_true_eq] at here
      exact ⟨v, mem, here.1⟩

/-- The church roles of the list cut by the links of the list. -/
theorem perfisDaRota_sub (deIgreja : ∃ r ∈ rota.roles, r ∈ Role.churchRoles) {r : Int}
    (mem : r ∈ Painel.perfisDaRota rota.roles) : r ∈ rota.roles := by
  unfold Painel.perfisDaRota at mem
  dsimp only at mem
  split at mem
  · rename_i empty
    obtain ⟨r', listed, church⟩ := deIgreja
    have inside : r' ∈ rota.roles.filter fun perfil => perfil ∈ Role.churchRoles :=
      List.mem_filter.mpr ⟨listed, by simpa using church⟩
    rw [empty] at inside
    cases inside
  · exact (List.mem_filter.mp mem).1

theorem mem_churchIdsComPerfil {requester : TenantRequester} {roles : List Int} {churchId : Id} :
    churchId ∈ churchIdsComPerfil (some requester) roles ↔
      ∃ v ∈ requester.churchRoles, v.role ∈ roles ∧ v.churchId = churchId := by
  simp [churchIdsComPerfil, and_assoc]

/-- What `RolesGuard` checks of a person who is there. -/
theorem rolesGuard_ok (deIgreja : rota.roles ≠ []) (quem : pedido.userId = some userId)
    (found : db.pessoa? userId = some p) :
    db.rolesGuard rota pedido = .ok () ↔ userId ∉ db.bloqueios ∧
      (perfilEfetivo (db.tenant? userId) ∈ rota.roles ∨
        (rota.aceitaTesoureiro ∧ db.temVinculoDeTesoureiro userId) ∨
        (Role.admin ∈ rota.roles ∧ rota.aceitaAdminDoEvento ∧
          db.temVinculoDeAdminDeEvento userId)) := by
  simp only [Painel.rolesGuard, if_neg deIgreja, quem, tenant?_eq found, orFail, bind_eq_ok_iff,
    failIf_eq_ok_iff, Except.ok.injEq, exists_eq_left', exists_const, Decidable.not_not]

/-- When the stored role is neither global nor of a church, and the effective profile is in the
list, nothing is asked about the church of the event. -/
theorem eventTenantGuard_ok_of_not_responde (deIgreja : rota.roles ≠ [])
    (quem : pedido.userId = some userId) (found : db.pessoa? userId = some p)
    (named : p.id = userId) (escapa : ¬ db.PerfilResponde rota p) :
    db.eventTenantGuard rota pedido = .ok () := by
  simp only [Painel.PerfilResponde, not_or, not_not, named, tenant?_eq found] at escapa
  obtain ⟨global, church, listed⟩ := escapa
  have sem : tenantChurchIds (some ⟨p.role, db.vinculosQueValem userId⟩)
      (Painel.perfisDaRota rota.roles) = none := by
    simp [tenantChurchIds, isSuperAdmin, global, church]
  simp [Painel.eventTenantGuard, quem, tenant?_eq found, orFail, bind, Except.bind, pure,
    Except.pure, deIgreja, listed, sem]

/-- Otherwise a request that passes is of a person who may. -/
theorem autorizado_of_responde (deIgreja : ∃ r ∈ rota.roles, r ∈ Role.churchRoles)
    (quem : pedido.userId = some userId)
    (resolve : db.resolveEventId pedido = .ok (some evento.id))
    (existe : db.evento? evento.id = some evento) (found : db.pessoa? userId = some p)
    (named : p.id = userId) (responde : db.PerfilResponde rota p)
    (passa : db.eventTenantGuard rota pedido = .ok ()) : db.Autorizado rota userId evento := by
  have listed : rota.roles ≠ [] := by
    obtain ⟨r, mem, _⟩ := deIgreja
    exact List.ne_nil_of_mem mem
  unfold Painel.eventTenantGuard at passa
  simp only [quem, tenant?_eq found, orFail, bind_eq_ok_iff, Except.ok.injEq, exists_eq_left',
    listed, false_and, if_false, not_false_eq_true, true_and, ne_eq] at passa
  unfold Painel.PerfilResponde at responde
  rw [named, tenant?_eq found] at responde
  split at passa
  · simp only [bind_eq_ok_iff, failIf_eq_ok_iff, Bool.not_eq_true', Bool.not_eq_false] at passa
    obtain ⟨daqui, ok, rfl⟩ := passa
    exact .inr (temVinculoDaqui_ok resolve listed ok)
  · rename_i perfil
    rw [not_not] at perfil
    have responde := responde.imp_right fun rest => rest.resolve_right (not_not.mpr perfil)
    by_cases global : p.role ∈ Role.superAdminRoles
    · refine .inl ⟨p, found, global, ?_⟩
      rwa [perfilEfetivo_of_superAdmin global] at perfil
    · have church := responde.resolve_left global
      refine .inr ?_
      simp only [tenantChurchIds, isSuperAdmin, Option.any_some, global, decide_false,
        Bool.false_eq_true, if_false, church, decide_true, not_true, resolve,
        bind_eq_ok_iff, Except.ok.injEq, exists_eq_left', existe] at passa
      split at passa
      · rename_i alcanca
        obtain ⟨v, mem, role, at_church⟩ := mem_churchIdsComPerfil.mp alcanca
        obtain ⟨row, vale⟩ := mem_vinculosQueValem.mp mem
        exact .inl ⟨_, row, rfl, at_church, perfisDaRota_sub deIgreja role, at_church ▸ vale⟩
      · simp only [failIf_eq_ok_iff, Bool.not_eq_true', Bool.not_eq_false, bind_eq_ok_iff] at passa
        obtain ⟨daqui, ok, rfl⟩ := passa
        exact temVinculoDaqui_ok resolve listed ok

end Guardas

/-- For every stored person, route of a church role and request about an event: what both guards let
through is authorised exactly when the account is blocked, or the stored role is a global or a
church one, or the effective profile is not in the list, or the person has a link with the event
anyway. -/
theorem guardas_iff (db : Painel) (rota : Rota) (pedido : RequisicaoDeEvento) (userId : Id)
    (evento : EventoDaIgreja) (deIgreja : ∃ r ∈ rota.roles, r ∈ Role.churchRoles)
    (quem : pedido.userId = some userId)
    (resolve : db.resolveEventId pedido = .ok (some evento.id))
    (existe : db.evento? evento.id = some evento) :
    (db.Passa rota pedido → db.Autorizado rota userId evento) ↔
      ∀ p, db.pessoa? userId = some p →
        userId ∈ db.bloqueios ∨ db.PerfilResponde rota p ∨ db.VinculoAqui rota userId evento := by
  have listed : rota.roles ≠ [] := by
    obtain ⟨r, mem, _⟩ := deIgreja
    exact List.ne_nil_of_mem mem
  constructor
  · intro sound p found
    by_contra escapa
    simp only [not_or] at escapa
    obtain ⟨livre, naoResponde, semVinculo⟩ := escapa
    have named : p.id = userId := lookup_key found
    have passa : db.Passa rota pedido := by
      refine ⟨(rolesGuard_ok listed quem found).mpr ⟨livre, .inl ?_⟩,
        eventTenantGuard_ok_of_not_responde listed quem found named naoResponde⟩
      by_contra fora
      exact naoResponde (.inr (.inr (named ▸ fora)))
    rcases sound passa with ⟨q, found', global, _⟩ | vinculo
    · obtain rfl := Option.some.inj (found.symm.trans found')
      exact naoResponde (.inl global)
    · exact semVinculo vinculo
  · rintro cond ⟨roles, tenant⟩
    cases found : db.pessoa? userId with
    | none =>
        simp [Painel.rolesGuard, listed, quem, Painel.tenant?, found, orFail, bind,
          Except.bind] at roles
    | some p =>
        rcases cond p found with blocked | responde | vinculo
        · exact absurd blocked ((rolesGuard_ok listed quem found).mp roles).1
        · exact autorizado_of_responde deIgreja quem resolve existe found (lookup_key found)
            responde tenant
        · exact .inr vinculo

/-! ### A stored common user who administers another church -/

namespace DuasIgrejas

/-- Person 7 is stored as a common user and has an `ADMIN` link with church 1. -/
def painel : Painel where
  igrejas := [⟨1, "Sede", .active, none, none⟩, ⟨2, "Filial", .active, none, none⟩]
  planos := []
  pessoas := [⟨7, Role.user, "a@b.c", "1", "", "Ana", ⟨none, none, none⟩, none, none, none,
    none, []⟩]
  bloqueios := []
  churchRoles := [⟨7, 1, Role.admin⟩]
  eventos := [⟨20, 2⟩]
  eventTreasurers := []
  eventAdmins := []
  inscricoes := []
  esperas := []
  pagamentos := []
  errosDeSenhaAtual := fun _ => none
  nextId := 100

/-- A route of `@Roles(...ADMIN_ROLES)`. -/
def rota : Rota := ⟨Role.adminRoles, false, false⟩

/-- A request of person 7 about event 20, of church 2. -/
def pedido : RequisicaoDeEvento := ⟨some 7, none, some 20, none, none⟩

theorem passa : painel.Passa rota pedido := ⟨by decide +kernel, by decide +kernel⟩

/-- The person has nothing to do with church 2. -/
theorem naoAutorizado : ¬ painel.Autorizado rota 7 ⟨20, 2⟩ := by
  rintro (⟨p, found, global, _⟩ | vinculo)
  · have stored : ∀ p ∈ painel.pessoas, p.role ∉ Role.superAdminRoles := by decide +kernel
    exact stored p (lookup_mem found) global
  · rcases vinculo with ⟨v, mem, _, church, _⟩ | ⟨aceita, _⟩ | ⟨_, aceita, _⟩
    · have outra : ∀ v ∈ painel.churchRoles, v.churchId ≠ 2 := by decide +kernel
      exact outra v mem church
    · cases aceita
    · cases aceita

end DuasIgrejas

/-- Both guards let the request of a person without authority through. -/
theorem not_autorizado_rebaixada :
    ¬ (DuasIgrejas.painel.Passa DuasIgrejas.rota DuasIgrejas.pedido →
      DuasIgrejas.painel.Autorizado DuasIgrejas.rota 7 ⟨20, 2⟩) :=
  fun sound => DuasIgrejas.naoAutorizado (sound DuasIgrejas.passa)

/-- That person is not blocked, and neither the stored role nor a link answers for church 2. -/
theorem guardas_iff_rebaixada :
    ¬ ∀ p, DuasIgrejas.painel.pessoa? 7 = some p →
      7 ∈ DuasIgrejas.painel.bloqueios ∨ DuasIgrejas.painel.PerfilResponde DuasIgrejas.rota p ∨
        DuasIgrejas.painel.VinculoAqui DuasIgrejas.rota 7 ⟨20, 2⟩ := by
  intro cond
  have sound := (guardas_iff DuasIgrejas.painel DuasIgrejas.rota DuasIgrejas.pedido 7 ⟨20, 2⟩
    ⟨Role.admin, by decide, by decide⟩ rfl rfl (by decide +kernel)).mpr cond
  exact DuasIgrejas.naoAutorizado (sound DuasIgrejas.passa)

end IccvBackend
