/-
Module: IccvBackend.Proofs.Waiting
Purpose: When nobody is in a group and waiting for it, over every order of registrations, edits,
  moves and removals.
Trusted boundary: none
Main exports: Database.SemDupla, EsperaOutroGrupo, semDupla_run_iff
-/
import IccvBackend.Proofs.Seats

namespace IccvBackend

open Lib

/-- Two roles of one group. -/
def Catalogue.MesmoGrupo (cat : Catalogue) (roleId roleId' : Id) : Prop :=
  ∃ groupId, cat.roleInGroup groupId roleId ∧ cat.roleInGroup groupId roleId'

/-- Two entries of one person for one group of an event. -/
def Waitlist.MesmaEspera (cat : Catalogue) (w w' : Waitlist) : Prop :=
  w.userId = w'.userId ∧ w.eventId = w'.eventId ∧
    cat.MesmoGrupo w.roleRegistrationId w'.roleRegistrationId

/-- Nobody is in a group and waiting for it, and nobody waits twice for one group. -/
structure Database.SemDupla (db : Database) : Prop where
  foraDaEspera : ∀ i ∈ db.inscricoes, ∀ w ∈ db.waitlist, i.userId = w.userId →
    i.eventId = w.eventId → ¬ db.catalogue.MesmoGrupo i.roleRegistrationId w.roleRegistrationId
  umaEspera : db.waitlist.Pairwise fun w w' => ¬ w.MesmaEspera db.catalogue w'

/-- The person waits for no group of the roles she asks for. -/
def Database.EsperaOutroGrupo (db : Database) (userId eventId : Id) (roleIds : List Id) : Prop :=
  ∀ w ∈ db.waitlist, w.userId = userId → w.eventId = eventId → ∀ roleId ∈ roleIds,
    ¬ db.catalogue.MesmoGrupo roleId w.roleRegistrationId

/-- A registration or an edit that goes through is of a person who does not wait for those
groups. -/
def EntraSemEsperar (quando : Instant → String) (db : Database) : AcaoDeInscricao → Prop
  | .registerUserInEvent request => (registerUserInEvent quando db request).isOk →
      db.EsperaOutroGrupo request.userId request.eventId request.registrationRoleIds
  | .updateUserFromEvent userId eventId roles agora =>
      (updateUserFromEvent quando db userId eventId roles agora).isOk →
        db.EsperaOutroGrupo userId eventId roles
  | _ => True

section Passo

variable {db depois : Database} {request : RegistrationRequest} {user : User} {event : Event}
  {result : Database × List (Id × ResultType)}

theorem Catalogue.MesmoGrupo.symm {cat : Catalogue} {a b : Id} (same : cat.MesmoGrupo a b) :
    cat.MesmoGrupo b a :=
  ⟨same.choose, same.choose_spec.2, same.choose_spec.1⟩

/-- A role with its group shares a group with another role exactly when that one is in it. -/
theorem mesmoGrupo_iff {cat : Catalogue} {pair : GroupRoles × RolesRegistration}
    (mem : pair ∈ cat.roles) {roleId : Id} :
    cat.MesmoGrupo pair.2.id roleId ↔ cat.roleInGroup pair.1.id roleId := by
  constructor
  · rintro ⟨groupId, here, there⟩
    rw [cat.roleInGroup_iff mem] at here
    rw [of_decide_eq_true here]
    exact there
  · intro there
    exact ⟨pair.1.id, by rw [cat.roleInGroup_iff mem]; exact decide_eq_true rfl, there⟩

/-- Every role asked for was found. -/
theorem Registrou.mem_roles (registrou : Registrou db request user event result) {roleId : Id}
    (asked : roleId ∈ request.registrationRoleIds) :
    ∃ role ∈ request.roles db.catalogue, role.2.id = roleId := by
  have nodup : ((request.roles db.catalogue).map fun pair => pair.2.id).Nodup :=
    db.catalogue.roles_ids.sublist (List.filter_sublist.map _)
  have inside : ((request.roles db.catalogue).map fun pair => pair.2.id) ⊆
      request.registrationRoleIds := by
    intro id mem
    obtain ⟨role, role_mem, rfl⟩ := List.mem_map.mp mem
    exact (mem_roles_of_request role_mem).2.1
  have same := (nodup.subperm inside).perm_of_length_le (by
    rw [List.length_map, registrou.roles_length])
  obtain ⟨role, role_mem, is_it⟩ := List.mem_map.mp (same.symm.subset asked)
  exact ⟨role, role_mem, is_it⟩

/-- The law survives a loss of role registrations and of entries. -/
theorem Database.SemDupla.menos (lei : db.SemDupla) (catalogue : depois.catalogue = db.catalogue)
    (inscricoes : depois.inscricoes ⊆ db.inscricoes)
    (waitlist : depois.waitlist.Sublist db.waitlist) : depois.SemDupla where
  foraDaEspera := by
    intro i i_mem w w_mem
    rw [catalogue]
    exact lei.foraDaEspera i (inscricoes i_mem) w (waitlist.subset w_mem)
  umaEspera := by
    rw [catalogue]
    exact lei.umaEspera.sublist waitlist

theorem Registrou.semDupla (registrou : Registrou db request user event result)
    (chaves : (db.eventOnUsers.map EventOnUsers.chave).Nodup) (lei : db.SemDupla)
    (outro : db.EsperaOutroGrupo request.userId request.eventId request.registrationRoleIds) :
    result.1.SemDupla := by
  obtain ⟨_, inscricoes, waitlist⟩ := registrou.inscricoes chaves
  have same_role : ∀ role ∈ request.roles db.catalogue, ∀ role' ∈ request.roles db.catalogue,
      db.catalogue.MesmoGrupo role.2.id role'.2.id → role = role' := by
    intro role mem role' mem' same
    have there := (mem_roles_of_request mem').1
    rw [mesmoGrupo_iff (mem_roles_of_request mem).1, db.catalogue.roleInGroup_iff there] at same
    exact List.inj_on_of_nodup_map registrou.groups_nodup mem mem' (of_decide_eq_true same).symm
  constructor
  · intro i i_mem w w_mem same_user same_event
    rw [registrou.catalogue]
    rw [waitlist] at w_mem
    rcases List.mem_append.mp (inscricoes.subset i_mem) with old | new <;>
      rcases List.mem_append.mp w_mem with w_old | w_new
    · exact lei.foraDaEspera i old w w_old same_user same_event
    · obtain ⟨role, role_mem, rfl⟩ := List.mem_map.mp w_new
      have asked := (List.mem_filter.mp role_mem).1
      intro same
      have inGroup := (mesmoGrupo_iff (mem_roles_of_request asked).1).mp same.symm
      have out := registrou.fora_do_grupo chaves old same_user same_event asked
      exact Bool.false_ne_true (out.symm.trans inGroup)
    · obtain ⟨role, role_mem, rfl⟩ := List.mem_map.mp new
      have asked := mem_roles_of_request (List.mem_filter.mp role_mem).1
      exact outro w w_old same_user.symm same_event.symm role.2.id asked.2.1
    · obtain ⟨role, role_mem, rfl⟩ := List.mem_map.mp new
      obtain ⟨role', role_mem', rfl⟩ := List.mem_map.mp w_new
      have ⟨asked, vacancy⟩ := List.mem_filter.mp role_mem
      have ⟨asked', full⟩ := List.mem_filter.mp role_mem'
      intro same
      obtain rfl := same_role role asked role' asked' same
      simp [full] at vacancy
  · rw [registrou.catalogue, waitlist, List.pairwise_append]
    refine ⟨lei.umaEspera, ?_, ?_⟩
    · rw [RegistrationRequest.esperas, List.pairwise_map]
      have distinct : (((request.roles db.catalogue).filter fun role =>
          lotado (db.countInGroup request.eventId) role).map fun pair => pair.1.id).Nodup :=
        registrou.groups_nodup.sublist (List.filter_sublist.map _)
      rw [List.Nodup, List.pairwise_map] at distinct
      apply List.Pairwise.imp_of_mem _ distinct
      rintro role role' mem mem' ne ⟨_, _, same⟩
      exact ne (congrArg (fun pair => pair.1.id) (same_role role (List.mem_filter.mp mem).1 role'
        (List.mem_filter.mp mem').1 same))
    · rintro w w_old w' w_new ⟨same_user, same_event, same⟩
      obtain ⟨role, role_mem, rfl⟩ := List.mem_map.mp w_new
      have asked := mem_roles_of_request (List.mem_filter.mp role_mem).1
      exact outro w w_old same_user same_event role.2.id asked.2.1 same.symm

/-- The condition is needed: the role asked for is registered or waits, and either is against the
law. -/
theorem Registrou.esperaOutroGrupo (registrou : Registrou db request user event result)
    (chaves : (db.eventOnUsers.map EventOnUsers.chave).Nodup) (lei : result.1.SemDupla) :
    db.EsperaOutroGrupo request.userId request.eventId request.registrationRoleIds := by
  obtain ⟨_, inscricoes, waitlist⟩ := registrou.inscricoes chaves
  rintro w w_mem same_user same_event roleId asked same
  obtain ⟨role, role_mem, rfl⟩ := registrou.mem_roles asked
  have w_still : w ∈ result.1.waitlist := by
    rw [waitlist]
    exact List.mem_append_left _ w_mem
  cases full : lotado (db.countInGroup request.eventId) role with
  | false =>
      have i_mem : (⟨request.userId, request.eventId, role.2.id⟩ : Inscricao) ∈
          result.1.inscricoes := by
        apply inscricoes.symm.subset
        apply List.mem_append_right
        exact List.mem_map.mpr ⟨role, List.mem_filter.mpr ⟨role_mem, by simp [full]⟩, rfl⟩
      apply lei.foraDaEspera _ i_mem w w_still same_user.symm same_event.symm
      rw [registrou.catalogue]
      exact same
  | true =>
      have new : (⟨request.userId, request.eventId, role.2.id⟩ : Waitlist) ∈
          request.esperas db := List.mem_map.mpr ⟨role, List.mem_filter.mpr ⟨role_mem, full⟩, rfl⟩
      have pairwise := lei.umaEspera
      rw [waitlist, List.pairwise_append, registrou.catalogue] at pairwise
      exact pairwise.2.2 w w_mem _ new ⟨same_user, same_event, same.symm⟩

/-! ### Each operation -/

theorem waitlistEntry?_mem {userId eventId roleId : Id} {entry : Waitlist}
    (found : db.waitlistEntry? userId eventId roleId = some entry) :
    entry ∈ db.waitlist ∧ entry.userId = userId ∧ entry.eventId = eventId ∧
      entry.roleRegistrationId = roleId := by
  have keys := List.find?_some found
  simp only [Bool.and_eq_true, decide_eq_true_eq] at keys
  exact ⟨List.mem_of_find?_eq_some found, keys.1.1, keys.1.2, keys.2⟩

theorem Database.SemDupla.deleteRegistration (lei : db.SemDupla) (userId eventId : Id) :
    (db.deleteRegistration userId eventId).SemDupla := by
  refine lei.menos rfl ?_ (List.Sublist.refl _)
  have rows : (db.deleteRegistration userId eventId).inscricoes = _ :=
    inscricoes_filter userId eventId
  rw [rows]
  exact List.filter_subset_self _

theorem cederVaga_inscricoes (entry : Waitlist) (sai groupId : Id) :
    (db.cederVaga entry sai groupId).inscricoes =
      db.inscricoes.filter fun i => !i.doGrupo db.catalogue sai entry.eventId groupId := by
  rw [Database.cederVaga, inscricoes_deleteEmptyRegistration, inscricoes_deleteRolesInGroup]
  rfl

theorem Database.SemDupla.cederVaga (lei : db.SemDupla) (entry : Waitlist) (sai groupId : Id) :
    (db.cederVaga entry sai groupId).SemDupla := by
  refine lei.menos rfl ?_ List.filter_sublist
  rw [cederVaga_inscricoes]
  exact List.filter_subset_self _

/-- Whoever leaves the list for a group has no other entry of it. -/
theorem esperaOutroGrupo_cederVaga (lei : db.SemDupla) {entry : Waitlist}
    (mem : entry ∈ db.waitlist) (sai groupId : Id) :
    (db.cederVaga entry sai groupId).EsperaOutroGrupo entry.userId entry.eventId
      [entry.roleRegistrationId] := by
  intro w w_mem same_user same_event roleId asked same
  obtain rfl : roleId = entry.roleRegistrationId := by simpa using asked
  have ⟨there, other⟩ := List.mem_filter.mp w_mem
  have symmetric : Std.Symm fun w w' : Waitlist => ¬ w.MesmaEspera db.catalogue w' :=
    ⟨fun w w' apart ⟨user, event, group⟩ => apart ⟨user.symm, event.symm, group.symm⟩⟩
  have apart := lei.umaEspera.forall there mem (by simpa using other)
  exact apart ⟨same_user, same_event, same.symm⟩

/-- One operation keeps the law when nobody enters a group she waits for. -/
theorem semDupla_executar {quando : Instant → String} {acao : AcaoDeInscricao}
    (ordem : db.EmOrdem) (lei : db.SemDupla) (entra : EntraSemEsperar quando db acao)
    (ok : acao.executar quando db = .ok depois) : depois.SemDupla := by
  cases acao with
  | registerUserInEvent request =>
      obtain ⟨result, registered, rfl⟩ := except_map_eq_ok_iff.mp ok
      obtain ⟨user, event, registrou⟩ := registerUserInEvent_ok registered
      exact registrou.semDupla ordem.chaves lei (entra (by rw [registered]; rfl))
  | updateUserFromEvent userId eventId roles agora =>
      obtain ⟨result, edited, rfl⟩ := except_map_eq_ok_iff.mp ok
      obtain ⟨_, ⟨user, event, registrou⟩, _⟩ := updateUserFromEvent_ok edited
      exact registrou.semDupla (ordem.deleteRegistration userId eventId).chaves
        (lei.deleteRegistration userId eventId) (entra (by rw [edited]; rfl))
  | movedUserFromWaitlistToEvent userId userRemovedId eventId role agora =>
      obtain ⟨result, moved, rfl⟩ := except_map_eq_ok_iff.mp ok
      obtain ⟨_, sai, entry, pair, _, _, found, _, ⟨user, event, registrou⟩, _⟩ :=
        movedUserFromWaitlistToEvent_ok moved
      obtain ⟨mem, rfl, rfl, rfl⟩ := waitlistEntry?_mem found
      exact registrou.semDupla (ordem.cederVaga entry sai pair.1.id).chaves
        (lei.cederVaga entry sai pair.1.id) (esperaOutroGrupo_cederVaga lei mem sai pair.1.id)
  | removeUserFromEvent idUser idEvent role =>
      unfold AcaoDeInscricao.executar removeUserFromEvent at ok
      simp only [bind_eq_ok_iff, pure_eq_ok_iff] at ok
      obtain ⟨_, _, rfl⟩ := ok
      refine lei.menos rfl ?_ List.filter_sublist
      have rows : (removeUserFromEventTx db idUser idEvent).inscricoes = _ :=
        inscricoes_filter idUser idEvent
      rw [rows]
      exact List.filter_subset_self _
  | removeUserFromWaitlist idUser idEvent role =>
      unfold AcaoDeInscricao.executar removeUserFromWaitlist at ok
      simp only [bind_eq_ok_iff, orFail_eq_ok_iff, pure_eq_ok_iff] at ok
      obtain ⟨entry, _, rfl⟩ := ok
      exact lei.menos rfl (List.Subset.refl _) List.filter_sublist

theorem entraSemEsperar_executar {quando : Instant → String} {acao : AcaoDeInscricao}
    (ordem : db.EmOrdem) (lei : (db.inscrevendo quando acao).SemDupla) :
    EntraSemEsperar quando db acao := by
  cases acao with
  | registerUserInEvent request =>
      intro isOk
      cases registered : registerUserInEvent quando db request with
      | error e => simp [registered, Except.isOk, Except.toBool] at isOk
      | ok result =>
          obtain ⟨user, event, registrou⟩ := registerUserInEvent_ok registered
          have after : db.inscrevendo quando (.registerUserInEvent request) = result.1 := by
            simp [Database.inscrevendo, AcaoDeInscricao.executar, registered, Except.map]
          exact registrou.esperaOutroGrupo ordem.chaves (after ▸ lei)
  | updateUserFromEvent userId eventId roles agora =>
      intro isOk
      cases edited : updateUserFromEvent quando db userId eventId roles agora with
      | error e => simp [edited, Except.isOk, Except.toBool] at isOk
      | ok result =>
          obtain ⟨_, ⟨user, event, registrou⟩, _⟩ := updateUserFromEvent_ok edited
          have after : db.inscrevendo quando (.updateUserFromEvent userId eventId roles agora) =
              result.1 := by
            simp [Database.inscrevendo, AcaoDeInscricao.executar, edited, Except.map]
          exact registrou.esperaOutroGrupo (ordem.deleteRegistration userId eventId).chaves
            (after ▸ lei)
  | movedUserFromWaitlistToEvent => trivial
  | removeUserFromEvent => trivial
  | removeUserFromWaitlist => trivial

end Passo

/-- Nobody is both in and waiting along a run exactly when no registration and no edit of the run
puts in a group somebody who waits for it. -/
theorem semDupla_run_iff (quando : Instant → String) {db : Database} (chaves : db.ComChaves)
    (lotacao : db.Lotacao) (lei : db.SemDupla) (acoes : List AcaoDeInscricao) :
    Always (Database.inscrevendo quando) Database.SemDupla db acoes ↔
      EachStep (Database.inscrevendo quando) (EntraSemEsperar quando) db acoes := by
  apply always_iff_eachStep_of_invariant (I := fun db => db.EmOrdem ∧ db.SemDupla)
  · exact fun _ inv => inv.2
  · rintro db acao ⟨ordem, lei⟩ entra
    refine ⟨emOrdem_inscrevendo ordem, ?_⟩
    unfold Database.inscrevendo
    split
    · next depois ok => exact semDupla_executar ordem lei entra ok
    · exact lei
  · rintro db acao ⟨ordem, _⟩ lei
    exact entraSemEsperar_executar ordem lei
  · exact ⟨emOrdem_iff.mpr ⟨chaves, lotacao⟩, lei⟩

/-! ### The place that became free -/

/-- The first takes the place, the second waits in one role, the first leaves, and the second
registers in the other role. -/
def vagaQueAbriu : List AcaoDeInscricao :=
  [UmaVaga.inscrever 1 7, UmaVaga.inscrever 2 8, .removeUserFromEvent 1 5 7,
    UmaVaga.inscrever 2 7]

/-- The second is in the group and still on its waiting list. -/
theorem dupla_vagaQueAbriu :
    ¬ (runFrom (Database.inscrevendo UmaVaga.quando) UmaVaga.vazio vagaQueAbriu).SemDupla := by
  intro lei
  have fim := lei.foraDaEspera
  have inside : (⟨2, 5, 7⟩ : Inscricao) ∈
      (runFrom (Database.inscrevendo UmaVaga.quando) UmaVaga.vazio vagaQueAbriu).inscricoes := by
    decide +kernel
  have waits : (⟨2, 5, 8⟩ : Waitlist) ∈
      (runFrom (Database.inscrevendo UmaVaga.quando) UmaVaga.vazio vagaQueAbriu).waitlist := by
    decide +kernel
  exact fim _ inside _ waits rfl rfl ⟨6, by decide +kernel, by decide +kernel⟩

theorem not_semDupla_vagaQueAbriu :
    ¬ Always (Database.inscrevendo UmaVaga.quando) Database.SemDupla UmaVaga.vazio
      vagaQueAbriu :=
  fun always => dupla_vagaQueAbriu always.last

theorem semDupla_vazio : UmaVaga.vazio.SemDupla where
  foraDaEspera := by simp [UmaVaga.vazio]
  umaEspera := by simp [UmaVaga.vazio]

/-- In that run somebody who waits for the group is put in it. -/
theorem semDupla_run_iff_vagaQueAbriu :
    ¬ EachStep (Database.inscrevendo UmaVaga.quando) (EntraSemEsperar UmaVaga.quando) UmaVaga.vazio
      vagaQueAbriu := by
  intro entra
  have always := (semDupla_run_iff UmaVaga.quando comChaves_vazio lotacao_vazio semDupla_vazio
    vagaQueAbriu).mpr entra
  exact dupla_vagaQueAbriu always.last

end IccvBackend
