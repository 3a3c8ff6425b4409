/-
Module: IccvBackend.Proofs.Bedrooms
Purpose: When every occupant of a bedroom is registered in its event.
Trusted boundary: none
Main exports: Hospedagem.OcupantesInscritos, Hospedagem.SaiComACama, ocupantesInscritos_run_iff
-/
import IccvBackend.Event.Bedrooms
import IccvBackend.Proofs.Waiting
import Mathlib.Data.List.Dedup

namespace IccvBackend

open Lib

/-- The person has an `EventOnUsers` row of the event. -/
def Database.Inscrito (db : Database) (userId eventId : Id) : Prop :=
  (userId, eventId) ∈ db.eventOnUsers.map EventOnUsers.chave

/-! ### Who stays registered -/

section Inscritos

variable {db : Database}

theorem inscrito_iff_exists {userId eventId : Id} :
    db.Inscrito userId eventId ↔
      ∃ row ∈ db.eventOnUsers, row.userId = userId ∧ row.eventId = eventId := by
  simp [Database.Inscrito, EventOnUsers.chave]

theorem inscrito_of_registration? {userId eventId : Id} {row : EventOnUsers}
    (found : db.registration? userId eventId = some row) : db.Inscrito userId eventId := by
  by_contra absent
  rw [registration?_eq_none_iff.mpr absent] at found
  exact nomatch found

theorem inscrito_of_mem {i : Inscricao} (mem : i ∈ db.inscricoes) :
    db.Inscrito i.userId i.eventId := by
  obtain ⟨row, row_mem, i_mem⟩ := List.mem_flatMap.mp mem
  have ⟨same_user, same_event⟩ := mem_inscricoes_of_row i_mem
  exact inscrito_iff_exists.mpr ⟨row, row_mem, same_user.symm, same_event.symm⟩

theorem inscrito_inscrever (request : RegistrationRequest) (minor : MinorApprovalStatus)
    (role : RolesRegistration) {userId eventId : Id} (inscrito : db.Inscrito userId eventId) :
    (db.inscrever request minor role).Inscrito userId eventId := by
  have upserted : ∀ aceite, (userId, eventId) ∈ (db.upsertRegistration request.userId
      request.eventId minor aceite).eventOnUsers.map EventOnUsers.chave := by
    intro aceite
    unfold Database.upsertRegistration
    split
    · rw [chaves_modifyRegistration]
      · exact inscrito
      · exact fun _ => rfl
    · simp only [List.map_append]
      exact List.mem_append_left _ inscrito
  simp only [Database.Inscrito, Database.inscrever, Database.createRoleRegistration,
    Database.createPayment]
  rw [chaves_modifyRegistration]
  · exact upserted _
  · exact fun _ => rfl

theorem inscrito_foldl_registerRole (request : RegistrationRequest) (minor : MinorApprovalStatus)
    (count : Id → Nat) {userId eventId : Id} (roles : List (GroupRoles × RolesRegistration)) :
    ∀ state : Database × List (Id × ResultType), state.1.Inscrito userId eventId →
      (roles.foldl (registerRole request minor count) state).1.Inscrito userId eventId := by
  induction roles with
  | nil => exact fun _ inscrito => inscrito
  | cons role roles ih =>
      intro state inscrito
      rw [List.foldl_cons]
      apply ih
      unfold registerRole
      split
      · exact inscrito
      · exact inscrito_inscrever request minor role.2 inscrito

variable {request : RegistrationRequest} {user : User} {event : Event}
  {result : Database × List (Id × ResultType)}

/-- A registration takes nobody out. -/
theorem Registrou.inscrito (registrou : Registrou db request user event result)
    {userId eventId : Id} (inscrito : db.Inscrito userId eventId) :
    result.1.Inscrito userId eventId := by
  rw [registrou.result]
  exact inscrito_foldl_registerRole request _ _ _ _ inscrito

theorem inscrito_of_inscrever {minor : MinorApprovalStatus} {role : RolesRegistration}
    {userId eventId : Id} (inscrito : (db.inscrever request minor role).Inscrito userId eventId) :
    db.Inscrito userId eventId ∨ userId = request.userId ∧ eventId = request.eventId := by
  have upserted : ∀ aceite, (userId, eventId) ∈ (db.upsertRegistration request.userId
      request.eventId minor aceite).eventOnUsers.map EventOnUsers.chave →
        db.Inscrito userId eventId ∨ userId = request.userId ∧ eventId = request.eventId := by
    intro aceite mem
    unfold Database.upsertRegistration at mem
    split at mem
    · rw [chaves_modifyRegistration] at mem
      · exact .inl mem
      · exact fun _ => rfl
    · simp only [List.map_append] at mem
      rcases List.mem_append.mp mem with old | new
      · exact .inl old
      · right
        simpa [EventOnUsers.chave, Database.newRegistration] using new
  simp only [Database.Inscrito, Database.inscrever, Database.createRoleRegistration,
    Database.createPayment] at inscrito
  rw [chaves_modifyRegistration] at inscrito
  · exact upserted _ inscrito
  · exact fun _ => rfl

/-- A registration puts in nobody else. -/
theorem Registrou.inscrito_or (registrou : Registrou db request user event result)
    {userId eventId : Id} (inscrito : result.1.Inscrito userId eventId) :
    db.Inscrito userId eventId ∨ userId = request.userId ∧ eventId = request.eventId := by
  have loop : ∀ (roles : List (GroupRoles × RolesRegistration))
      (state : Database × List (Id × ResultType)),
      (roles.foldl (registerRole request (minorApprovalStatusFor user event)
        (db.countInGroup request.eventId)) state).1.Inscrito userId eventId →
      state.1.Inscrito userId eventId ∨ userId = request.userId ∧ eventId = request.eventId := by
    intro roles
    induction roles with
    | nil => exact fun _ inscrito => .inl inscrito
    | cons role roles ih =>
        intro state inscrito
        rcases ih _ inscrito with before | requested
        · unfold registerRole at before
          split at before
          · exact .inl before
          · exact inscrito_of_inscrever before
        · exact .inr requested
  rw [registrou.result] at inscrito
  exact loop _ _ inscrito

/-- A registration in which some role got a place registers the person. -/
theorem Registrou.inscreve (registrou : Registrou db request user event result)
    (chaves : (db.eventOnUsers.map EventOnUsers.chave).Nodup)
    (registered : ∀ r ∈ result.2.head?, r.2 = .registered) :
    result.1.Inscrito request.userId request.eventId := by
  have some_role : request.roles db.catalogue ≠ [] := by
    intro empty
    have length := registrou.roles_length
    rw [empty] at length
    exact registrou.named (List.eq_nil_of_length_eq_zero length.symm)
  cases roles : request.roles db.catalogue with
  | nil => exact absurd roles some_role
  | cons role rest =>
      have vacancy : lotado (db.countInGroup request.eventId) role = false := by
        have results := registrou.result
        rw [roles] at results
        have listed := congrArg Prod.snd results
        rw [foldl_registerRole_results] at listed
        have first := registered (role.2.id, if lotado (db.countInGroup request.eventId) role then
          .waitlist else .registered) (by simp [listed])
        cases full : lotado (db.countInGroup request.eventId) role with
        | false => rfl
        | true => simp [full] at first
      obtain ⟨_, inscricoes, _⟩ := registrou.inscricoes chaves
      have new : (⟨request.userId, request.eventId, role.2.id⟩ : Inscricao) ∈
          result.1.inscricoes := by
        apply inscricoes.symm.subset
        apply List.mem_append_right
        refine List.mem_map.mpr ⟨role, List.mem_filter.mpr ⟨?_, by simp [vacancy]⟩, rfl⟩
        rw [roles]
        exact List.mem_cons_self
      exact inscrito_of_mem new

/-- Deleting a registration takes out that person and no other. -/
theorem inscrito_filter {depois : Database} {userId eventId userId' eventId' : Id}
    (rows : depois.eventOnUsers =
      db.eventOnUsers.filter fun row => !(row.userId = userId && row.eventId = eventId)) :
    depois.Inscrito userId' eventId' ↔
      db.Inscrito userId' eventId' ∧ ¬ (userId' = userId ∧ eventId' = eventId) := by
  simp only [inscrito_iff_exists, rows, List.mem_filter]
  constructor
  · rintro ⟨row, ⟨mem, other⟩, rfl, rfl⟩
    exact ⟨⟨row, mem, rfl, rfl⟩, not_and_or.mpr (by simpa using other)⟩
  · rintro ⟨⟨row, mem, rfl, rfl⟩, other⟩
    exact ⟨row, ⟨mem, by simpa using not_and_or.mp other⟩, rfl, rfl⟩

/-- Giving the place: the others stay, and who gives it stays when she has a role in another
group. -/
theorem inscrito_cederVaga (entry : Waitlist) (sai groupId : Id) {userId eventId : Id} :
    (db.cederVaga entry sai groupId).Inscrito userId eventId ↔
      db.Inscrito userId eventId ∧ (userId = sai → eventId = entry.eventId →
        ∃ i ∈ db.inscricoes, i.userId = sai ∧ i.eventId = entry.eventId ∧
          db.catalogue.roleInGroup groupId i.roleRegistrationId = false) := by
  have rows : (db.cederVaga entry sai groupId).eventOnUsers =
      (db.eventOnUsers.map fun row => if row.userId = sai && row.eventId = entry.eventId then
        { row with rolesRegistration := row.rolesRegistration.filter fun held =>
            !db.catalogue.roleInGroup groupId held.roleRegistrationId }
        else row).filter fun row =>
          !(row.userId = sai && row.eventId = entry.eventId && row.rolesRegistration.isEmpty) := rfl
  simp only [inscrito_iff_exists, rows, List.mem_filter, List.mem_map]
  constructor
  · rintro ⟨_, ⟨⟨row, mem, rfl⟩, kept⟩, user, event⟩
    by_cases here : row.userId = sai ∧ row.eventId = entry.eventId
    · obtain ⟨rfl, same_event⟩ := here
      simp only [same_event, decide_true, Bool.and_self, if_true] at kept user event
      refine ⟨⟨row, mem, user, same_event.trans event⟩, fun _ _ => ?_⟩
      obtain ⟨held, held_mem⟩ := List.exists_mem_of_ne_nil _ (by simpa using kept :
        row.rolesRegistration.filter (fun held =>
          !db.catalogue.roleInGroup groupId held.roleRegistrationId) ≠ [])
      have ⟨there, out⟩ := List.mem_filter.mp held_mem
      exact ⟨_, List.mem_flatMap.mpr ⟨row, mem, List.mem_map_of_mem there⟩, rfl, same_event,
        by simpa using out⟩
    · have other : (decide (row.userId = sai) && decide (row.eventId = entry.eventId)) = false := by
        simpa using here
      rw [if_neg (by simpa using here)] at user event
      refine ⟨⟨row, mem, user, event⟩, fun same_user same_event => ?_⟩
      exact absurd ⟨user.trans same_user, event.trans same_event⟩ here
  · rintro ⟨⟨row, mem, rfl, rfl⟩, stays⟩
    by_cases here : row.userId = sai ∧ row.eventId = entry.eventId
    · obtain ⟨i, i_mem, user, event, out⟩ := stays here.1 here.2
      obtain ⟨row', mem', i_in⟩ := List.mem_flatMap.mp i_mem
      obtain ⟨held, held_mem, rfl⟩ := List.mem_map.mp i_in
      have user' : row'.userId = sai := user
      have event' : row'.eventId = entry.eventId := event
      have keeps : held ∈ row'.rolesRegistration.filter fun held =>
          !db.catalogue.roleInGroup groupId held.roleRegistrationId :=
        List.mem_filter.mpr ⟨held_mem, by simpa using out⟩
      refine ⟨_, ⟨⟨row', mem', rfl⟩, ?_⟩, ?_, ?_⟩
      · simp only [user', event', decide_true, Bool.and_self, if_true, Bool.true_and]
        simpa using List.ne_nil_of_mem keeps
      · simp [user', event', here.1]
      · simp [user', event', here.2]
    · refine ⟨row, ⟨⟨row, mem, if_neg (by simpa using here)⟩, ?_⟩, rfl, rfl⟩
      have other : (decide (row.userId = sai) && decide (row.eventId = entry.eventId)) = false := by
        simpa using here
      simp [other]

end Inscritos

namespace Hospedagem

/-! ### Occupants -/

/-- Every person in a bedroom is registered in the event of the bedroom. -/
def OcupantesInscritos (s : Hospedagem) : Prop :=
  ∀ o ∈ s.bedroomsOnUsers, ∀ quarto ∈ s.bedrooms, quarto.id = o.bedroomsId →
    s.db.Inscrito o.userId quarto.eventId

/-- The registrations are in order, and bedrooms have primary keys from the generator. -/
structure ComChaves (s : Hospedagem) : Prop where
  emOrdem : s.db.EmOrdem
  quartos : (s.bedrooms.map Bedroom.id).Nodup
  quarto_lt : ∀ quarto ∈ s.bedrooms, quarto.id < s.proximoQuarto
  ocupante_lt : ∀ o ∈ s.bedroomsOnUsers, o.bedroomsId < s.proximoQuarto

/-- The person has a bed in some bedroom of the event. -/
def TemCama (s : Hospedagem) (userId eventId : Id) : Prop :=
  ∃ o ∈ s.bedroomsOnUsers, o.userId = userId ∧
    ∃ quarto ∈ s.bedrooms, quarto.id = o.bedroomsId ∧ quarto.eventId = eventId

/-- Whoever gives her place to somebody of the waiting list keeps a role in another group of the
event, or has no bed in it. -/
def SaiSemCama (amb : Ambiente) (s : Hospedagem) : Acao → Prop
  | .movedUserFromWaitlistToEvent userId userRemovedId eventId roleId agora =>
      (movedUserFromWaitlistToEvent amb.quando s.db userId userRemovedId eventId roleId
        agora).isOk → ∀ sai, userRemovedId = some sai → userId ≠ some sai → s.TemCama sai eventId →
          ∃ i ∈ s.db.inscricoes, i.userId = sai ∧ i.eventId = eventId ∧
            ¬ s.db.catalogue.MesmoGrupo roleId i.roleRegistrationId
  | _ => True

variable {s : Hospedagem}

/-- Who passes the check of the list is registered. -/
theorem inscrito_of_assertUsersNoEvento
    (chaves : (s.db.eventOnUsers.map EventOnUsers.chave).Nodup) {eventId : Id} {userIds : List Id}
    (ok : s.assertUsersNoEvento eventId userIds = .ok ()) {userId : Id} (mem : userId ∈ userIds) :
    s.db.Inscrito userId eventId := by
  simp only [assertUsersNoEvento, failIf_eq_ok_iff, not_and_or, not_not] at ok
  have some_id : userIds.dedup ≠ [] := List.ne_nil_of_mem (List.mem_dedup.mpr mem)
  have counted := ok.resolve_left some_id
  rw [List.countP_eq_length_filter, ← List.length_map (f := EventOnUsers.userId)] at counted
  generalize inside_eq : (s.db.eventOnUsers.filter fun row =>
    row.eventId = eventId && row.userId ∈ userIds.dedup) = inside at counted
  have rows : ∀ row ∈ inside, row ∈ s.db.eventOnUsers ∧ row.eventId = eventId ∧
      row.userId ∈ userIds.dedup := by
    intro row row_mem
    rw [← inside_eq] at row_mem
    simpa using row_mem
  have nodup : (inside.map EventOnUsers.userId).Nodup := by
    apply List.Nodup.of_map (f := fun u => (u, eventId))
    have keys : (inside.map EventOnUsers.userId).map (fun u => (u, eventId)) =
        inside.map EventOnUsers.chave := by
      rw [List.map_map]
      apply List.map_congr_left
      intro row row_mem
      simp [EventOnUsers.chave, (rows row row_mem).2.1]
    rw [keys]
    exact chaves.sublist (inside_eq ▸ List.filter_sublist.map _)
  have subset : inside.map EventOnUsers.userId ⊆ userIds.dedup := by
    intro u u_mem
    obtain ⟨row, row_mem, rfl⟩ := List.mem_map.mp u_mem
    exact (rows row row_mem).2.2
  have same := (nodup.subperm subset).perm_of_length_le counted.ge
  obtain ⟨row, row_mem, is_it⟩ := List.mem_map.mp (same.symm.subset (List.mem_dedup.mpr mem))
  obtain ⟨there, same_event, _⟩ := rows row row_mem
  exact inscrito_iff_exists.mpr ⟨row, there, is_it, same_event⟩

/-- What `createRelations` leaves: only occupants of that bedroom, of that list, are new. -/
theorem createRelations_getD (s : Hospedagem) (usersIds : List Id) (idBedroom : Id) :
    ((s.createRelations usersIds idBedroom).getD s).db = s.db ∧
      ((s.createRelations usersIds idBedroom).getD s).bedrooms = s.bedrooms ∧
      ((s.createRelations usersIds idBedroom).getD s).proximoQuarto = s.proximoQuarto ∧
      ∀ o ∈ ((s.createRelations usersIds idBedroom).getD s).bedroomsOnUsers,
        o ∈ s.bedroomsOnUsers ∨ o.bedroomsId = idBedroom ∧ o.userId ∈ usersIds := by
  unfold createRelations
  dsimp only
  split
  · refine ⟨rfl, rfl, rfl, fun o mem => ?_⟩
    rcases List.mem_append.mp mem with old | new
    · exact .inl old
    · obtain ⟨id, id_mem, rfl⟩ := List.mem_map.mp new
      exact .inr ⟨rfl, (List.mem_filter.mp id_mem).1⟩
  · exact ⟨rfl, rfl, rfl, fun o mem => .inl mem⟩

/-- Registrations that keep everybody who has a bed keep the occupants registered. -/
theorem OcupantesInscritos.of_db (inscritos : s.OcupantesInscritos) {db : Database}
    (stays : ∀ userId eventId, s.TemCama userId eventId → s.db.Inscrito userId eventId →
      db.Inscrito userId eventId) : OcupantesInscritos { s with db := db } := by
  intro o mem quarto quarto_mem same
  exact stays o.userId quarto.eventId ⟨o, mem, rfl, quarto, quarto_mem, same, rfl⟩
    (inscritos o mem quarto quarto_mem same)

/-! ### Each operation -/

/-- One bedroom for one id. -/
theorem ComChaves.quarto_eq (chaves : s.ComChaves) {a b : Bedroom} (a_mem : a ∈ s.bedrooms)
    (b_mem : b ∈ s.bedrooms) (same : a.id = b.id) : a = b :=
  List.inj_on_of_nodup_map chaves.quartos a_mem b_mem same

/-- The operations on registrations touch nothing else. -/
theorem ComChaves.of_db (chaves : s.ComChaves) {db : Database} (ordem : db.EmOrdem) :
    ComChaves { s with db := db } :=
  ⟨ordem, chaves.quartos, chaves.quarto_lt, chaves.ocupante_lt⟩

theorem createBedroom_ok {idEvent : Id} {dto : BedroomDto} {depois : Hospedagem}
    (chaves : s.ComChaves) (inscritos : s.OcupantesInscritos)
    (ok : s.createBedroom idEvent dto = .ok depois) :
    depois.ComChaves ∧ depois.OcupantesInscritos := by
  unfold createBedroom at ok
  simp only [bind_eq_ok_iff, failIf_eq_ok_iff, pure_eq_ok_iff] at ok
  obtain ⟨_, _, _, registered, _, _, rfl⟩ := ok
  generalize comQuarto_eq : ({ s with
    proximoQuarto := s.proximoQuarto + 1
    bedrooms := s.bedrooms ++
      [{ id := s.proximoQuarto
         eventId := idEvent
         name := dto.name
         capacity := some dto.capacity
         groupTags := dto.groupTags.getD [] }] } : Hospedagem) = comQuarto
  obtain ⟨db, bedrooms, proximo, ocupantes⟩ :=
    createRelations_getD comQuarto dto.usersId s.proximoQuarto
  generalize (comQuarto.createRelations dto.usersId s.proximoQuarto).getD comQuarto = depois at *
  subst comQuarto_eq
  dsimp only at db bedrooms proximo ocupantes
  constructor
  · refine ⟨db ▸ chaves.emOrdem, ?_, ?_, ?_⟩
    · rw [bedrooms, List.map_append, List.nodup_append]
      refine ⟨chaves.quartos, List.nodup_singleton _, ?_⟩
      intro id mem new new_mem
      obtain ⟨quarto, quarto_mem, rfl⟩ := List.mem_map.mp mem
      obtain rfl : new = s.proximoQuarto := by simpa using new_mem
      exact (chaves.quarto_lt quarto quarto_mem).ne
    · intro quarto mem
      rw [bedrooms] at mem
      rw [proximo]
      rcases List.mem_append.mp mem with old | new
      · exact (chaves.quarto_lt quarto old).trans (Nat.lt_succ_self _)
      · obtain rfl := List.mem_singleton.mp new
        exact Nat.lt_succ_self _
    · intro o mem
      rw [proximo]
      rcases ocupantes o mem with old | ⟨new, _⟩
      · exact (chaves.ocupante_lt o old).trans (Nat.lt_succ_self _)
      · exact new ▸ Nat.lt_succ_self _
  · intro o mem quarto quarto_mem same
    rw [bedrooms] at quarto_mem
    rw [db]
    rcases ocupantes o mem with old | ⟨new, listed⟩ <;>
      rcases List.mem_append.mp quarto_mem with quarto_old | quarto_new
    · exact inscritos o old quarto quarto_old same
    · obtain rfl := List.mem_singleton.mp quarto_new
      exact absurd same (chaves.ocupante_lt o old).ne'
    · exact absurd (same.trans new) (chaves.quarto_lt quarto quarto_old).ne
    · obtain rfl := List.mem_singleton.mp quarto_new
      exact inscrito_of_assertUsersNoEvento chaves.emOrdem.chaves registered listed

theorem updateBedroom_ok {idEvent idBedroom : Id} {dto : BedroomDto} {depois : Hospedagem}
    (chaves : s.ComChaves) (inscritos : s.OcupantesInscritos)
    (ok : s.updateBedroom idEvent idBedroom dto = .ok depois) :
    depois.ComChaves ∧ depois.OcupantesInscritos := by
  unfold updateBedroom at ok
  simp only [bind_eq_ok_iff, orFail_eq_ok_iff, pure_eq_ok_iff] at ok
  obtain ⟨quarto, found, _, registered, _, _, rfl⟩ := ok
  have quarto_mem := List.mem_of_find?_eq_some found
  have quarto_keys : quarto.id = idBedroom ∧ quarto.eventId = idEvent := by
    simpa using List.find?_some found
  generalize reescrito_eq : ({ s with
    bedroomsOnUsers := s.bedroomsOnUsers.filter fun row =>
      !(row.bedroomsId = idBedroom && !dto.usersId.contains row.userId)
    bedrooms := s.bedrooms.map fun row =>
      if row.id = idBedroom then
        { row with
          eventId := idEvent
          name := dto.name
          capacity := some dto.capacity
          groupTags := dto.groupTags.getD [] }
      else row } : Hospedagem) = reescrito
  obtain ⟨db, bedrooms, proximo, ocupantes⟩ :=
    createRelations_getD reescrito dto.usersId idBedroom
  generalize (reescrito.createRelations dto.usersId idBedroom).getD reescrito = depois at *
  subst reescrito_eq
  dsimp only at db bedrooms proximo ocupantes
  -- a bedroom keeps its id and its event
  have antes : ∀ novo ∈ depois.bedrooms, ∃ velho ∈ s.bedrooms, novo.id = velho.id ∧
      novo.eventId = velho.eventId := by
    intro novo mem
    rw [bedrooms] at mem
    obtain ⟨velho, velho_mem, rfl⟩ := List.mem_map.mp mem
    refine ⟨velho, velho_mem, ?_⟩
    by_cases here : velho.id = idBedroom
    · obtain rfl := chaves.quarto_eq velho_mem quarto_mem (here.trans quarto_keys.1.symm)
      simp [here, quarto_keys.2]
    · simp [here]
  constructor
  · refine ⟨db ▸ chaves.emOrdem, ?_, ?_, ?_⟩
    · have ids : depois.bedrooms.map Bedroom.id = s.bedrooms.map Bedroom.id := by
        rw [bedrooms, List.map_map]
        congr 1
        funext row
        simp only [Function.comp_apply]
        split <;> rfl
      rw [ids]
      exact chaves.quartos
    · intro novo mem
      obtain ⟨velho, velho_mem, same, _⟩ := antes novo mem
      rw [proximo, same]
      exact chaves.quarto_lt velho velho_mem
    · intro o mem
      rw [proximo]
      rcases ocupantes o mem with old | ⟨new, _⟩
      · exact chaves.ocupante_lt o (List.mem_filter.mp old).1
      · rw [new, ← quarto_keys.1]
        exact chaves.quarto_lt quarto quarto_mem
  · intro o mem novo novo_mem same
    obtain ⟨velho, velho_mem, same_id, same_event⟩ := antes novo novo_mem
    rw [db, same_event]
    rcases ocupantes o mem with old | ⟨new, listed⟩
    · exact inscritos o (List.mem_filter.mp old).1 velho velho_mem (same_id.symm.trans same)
    · have it : velho = quarto :=
        chaves.quarto_eq velho_mem quarto_mem
          (same_id.symm.trans (same.trans (new.trans quarto_keys.1.symm)))
      rw [it, quarto_keys.2]
      exact inscrito_of_assertUsersNoEvento chaves.emOrdem.chaves registered listed

theorem mem_candidateBedrooms {porNome : String → String → Bool} {eventId : Id}
    {grupos : List String} {quarto : Bedroom}
    (mem : quarto ∈ s.candidateBedrooms porNome eventId grupos) :
    quarto ∈ s.bedrooms ∧ quarto.eventId = eventId := by
  have vaga : quarto ∈ s.bedrooms.filter fun quarto => quarto.eventId = eventId &&
      quarto.capacity.any fun capacity => capacity ≠ 0 && (s.ocupantes quarto.id : Int) <
        capacity := by
    rcases List.mem_append.mp mem with doGrupo | aberto
    · exact (List.mem_filter.mp (List.mem_mergeSort.mp doGrupo)).1
    · exact (List.mem_filter.mp (List.mem_mergeSort.mp aberto)).1
  have ⟨there, both⟩ := List.mem_filter.mp vaga
  simp only [Bool.and_eq_true, decide_eq_true_eq] at both
  exact ⟨there, both.1⟩

theorem deliverBadge_ok {porNome : String → String → Bool} {eventId userId : Id}
    {depois : Hospedagem} (chaves : s.ComChaves) (inscritos : s.OcupantesInscritos)
    (ok : s.deliverBadge porNome eventId userId = .ok depois) :
    depois.ComChaves ∧ depois.OcupantesInscritos := by
  unfold deliverBadge at ok
  simp only [bind_eq_ok_iff, orFail_eq_ok_iff, pure_eq_ok_iff] at ok
  obtain ⟨row, found, _, _, rfl⟩ := ok
  -- the bedroom given is one of the event
  have dado : ∀ o ∈ (s.allocateBedroom porNome eventId userId
      (s.gruposDe eventId userId)).toList.map
      (fun id => (⟨userId, id⟩ : BedroomOnUser)), o.userId = userId ∧
        ∃ quarto ∈ s.bedrooms, quarto.id = o.bedroomsId ∧ quarto.eventId = eventId := by
    intro o mem
    obtain ⟨id, id_mem, rfl⟩ := List.mem_map.mp mem
    refine ⟨rfl, ?_⟩
    rw [Option.mem_toList] at id_mem
    unfold allocateBedroom at id_mem
    dsimp only at id_mem
    split at id_mem
    · cases id_mem
    · obtain ⟨quarto, first, rfl⟩ := Option.map_eq_some_iff.mp id_mem
      obtain ⟨there, of_event⟩ := mem_candidateBedrooms (List.mem_of_mem_head? first)
      exact ⟨quarto, there, rfl, of_event⟩
  constructor
  · refine ⟨chaves.emOrdem, chaves.quartos, chaves.quarto_lt, ?_⟩
    intro o mem
    rcases List.mem_append.mp mem with old | new
    · exact chaves.ocupante_lt o old
    · obtain ⟨_, quarto, there, same, _⟩ := dado o new
      exact same ▸ chaves.quarto_lt quarto there
  · intro o mem quarto quarto_mem same
    rcases List.mem_append.mp mem with old | new
    · exact inscritos o old quarto quarto_mem same
    · obtain ⟨is_user, other, there, same', of_event⟩ := dado o new
      rw [chaves.quarto_eq quarto_mem there (same.trans same'.symm), of_event, is_user]
      exact inscrito_of_registration? found

theorem removeUserFromEvent_ok {idUser idEvent roleId : Id} {depois : Hospedagem}
    (chaves : s.ComChaves) (inscritos : s.OcupantesInscritos)
    (ok : s.removeUserFromEvent idUser idEvent roleId = .ok depois) :
    depois.ComChaves ∧ depois.OcupantesInscritos := by
  unfold removeUserFromEvent IccvBackend.removeUserFromEvent at ok
  simp only [bind_eq_ok_iff, pure_eq_ok_iff] at ok
  obtain ⟨_, ⟨_, _, rfl⟩, rfl⟩ := ok
  constructor
  · exact ⟨chaves.emOrdem.removeUserFromEventTx idUser idEvent, chaves.quartos, chaves.quarto_lt,
      fun o mem => chaves.ocupante_lt o (List.mem_filter.mp mem).1⟩
  · intro o mem quarto quarto_mem same
    obtain ⟨old, stays⟩ := List.mem_filter.mp mem
    refine (inscrito_filter rfl).mpr ⟨inscritos o old quarto quarto_mem same, ?_⟩
    rintro ⟨same_user, same_event⟩
    have leaves : (decide (o.userId = idUser) && s.bedrooms.any fun quarto =>
        decide (quarto.id = o.bedroomsId) && decide (quarto.eventId = idEvent)) = true := by
      rw [Bool.and_eq_true, List.any_eq_true]
      exact ⟨decide_eq_true same_user, quarto, quarto_mem, by simp [same, same_event]⟩
    simp [leaves] at stays

/-- The row of the catalogue that a move finds for the role of the entry. -/
theorem role_of_find {cat : Catalogue} {roleId : Id} {role : GroupRoles × RolesRegistration}
    (found : (cat.roles.find? fun pair => pair.2.id = roleId) = some role) {other : Id} :
    cat.MesmoGrupo roleId other ↔ cat.roleInGroup role.1.id other = true := by
  have is_it : role.2.id = roleId := by simpa using List.find?_some found
  rw [← is_it]
  exact mesmoGrupo_iff (List.mem_of_find?_eq_some found)

/-- A move keeps in the event everybody but the person that gives the place, and her too when she
has a role in another group. -/
theorem movedUserFromWaitlistToEvent_inscrito {quando : Instant → String} {db : Database}
    (ordem : db.EmOrdem) {userId userRemovedId : Option Id} {eventId roleId : Id} {agora : Instant}
    {result : Database × List (Id × ResultType)}
    (ok : movedUserFromWaitlistToEvent quando db userId userRemovedId eventId roleId agora =
      .ok result) :
    ∃ pessoa sai, userId = some pessoa ∧ userRemovedId = some sai ∧
      ∀ u e, db.Inscrito u e → (result.1.Inscrito u e ↔
        (u = pessoa ∧ e = eventId) ∨ (u = sai → e = eventId →
          ∃ i ∈ db.inscricoes, i.userId = sai ∧ i.eventId = eventId ∧
            ¬ db.catalogue.MesmoGrupo roleId i.roleRegistrationId)) := by
  obtain ⟨pessoa, sai, entry, role, rfl, rfl, found, role_found, ⟨user, event, registrou⟩, first⟩ :=
    movedUserFromWaitlistToEvent_ok ok
  obtain ⟨_, rfl, rfl, rfl⟩ := waitlistEntry?_mem found
  refine ⟨entry.userId, sai, rfl, rfl, fun u e inscrito => ?_⟩
  simp only [role_of_find role_found, Bool.not_eq_true]
  constructor
  · intro after
    rcases registrou.inscrito_or after with before | requested
    · exact .inr ((inscrito_cederVaga entry sai role.1.id).mp before).2
    · exact .inl requested
  · rintro (⟨rfl, rfl⟩ | stays)
    · exact registrou.inscreve (ordem.cederVaga entry sai role.1.id).chaves first
    · exact registrou.inscrito ((inscrito_cederVaga entry sai role.1.id).mpr ⟨inscrito, stays⟩)

theorem inscrito_updateUserFromEvent {quando : Instant → String} {db : Database}
    (ordem : db.EmOrdem) {userId eventId : Id} {roles : List Id} {agora : Instant}
    {result : Database × List (Id × ResultType)}
    (ok : updateUserFromEvent quando db userId eventId roles agora = .ok result) {u e : Id}
    (inscrito : db.Inscrito u e) : result.1.Inscrito u e := by
  obtain ⟨_, ⟨user, event, registrou⟩, registered⟩ := updateUserFromEvent_ok ok
  by_cases here : u = userId ∧ e = eventId
  · obtain ⟨rfl, rfl⟩ := here
    apply registrou.inscreve (ordem.deleteRegistration u e).chaves
    intro r mem
    exact registered r (List.mem_of_mem_head? mem)
  · exact registrou.inscrito ((inscrito_filter rfl).mpr ⟨inscrito, here⟩)

/-- One operation keeps the occupants registered exactly when nobody leaves a bed behind. -/
theorem executar_ok {amb : Ambiente} {acao : Acao} {depois : Hospedagem} (chaves : s.ComChaves)
    (inscritos : s.OcupantesInscritos) (sai : SaiSemCama amb s acao)
    (ok : s.executar amb acao = .ok depois) : depois.ComChaves ∧ depois.OcupantesInscritos := by
  cases acao with
  | registerUserInEvent request =>
      obtain ⟨result, registered, rfl⟩ := except_map_eq_ok_iff.mp ok
      obtain ⟨user, event, registrou⟩ := registerUserInEvent_ok registered
      exact ⟨chaves.of_db (registrou.emOrdem chaves.emOrdem),
        inscritos.of_db fun _ _ _ inscrito => registrou.inscrito inscrito⟩
  | updateUserFromEvent userId eventId roles agora =>
      obtain ⟨result, edited, rfl⟩ := except_map_eq_ok_iff.mp ok
      obtain ⟨_, ⟨user, event, registrou⟩, _⟩ := updateUserFromEvent_ok edited
      exact ⟨chaves.of_db (registrou.emOrdem (chaves.emOrdem.deleteRegistration userId eventId)),
        inscritos.of_db fun _ _ _ inscrito =>
          inscrito_updateUserFromEvent chaves.emOrdem edited inscrito⟩
  | movedUserFromWaitlistToEvent userId userRemovedId eventId role agora =>
      obtain ⟨result, moved, rfl⟩ := except_map_eq_ok_iff.mp ok
      obtain ⟨_, cede, entry, pair, _, _, _, _, ⟨user, event, registrou⟩, _⟩ :=
        movedUserFromWaitlistToEvent_ok moved
      refine ⟨chaves.of_db (registrou.emOrdem (chaves.emOrdem.cederVaga entry cede pair.1.id)),
        inscritos.of_db fun u e cama inscrito => ?_⟩
      obtain ⟨pessoa, quemSai, rfl, rfl, stays⟩ :=
        movedUserFromWaitlistToEvent_inscrito chaves.emOrdem moved
      apply (stays u e inscrito).mpr
      by_cases same : pessoa = quemSai
      · by_cases here : u = pessoa ∧ e = eventId
        · exact .inl here
        · refine .inr fun same_user same_event => absurd ⟨?_, same_event⟩ here
          rw [same_user, same]
      · refine .inr fun same_user same_event => ?_
        subst same_user same_event
        exact sai (by rw [moved]; rfl) u rfl (by simpa using same) cama
  | removeUserFromEvent idUser idEvent role => exact removeUserFromEvent_ok chaves inscritos ok
  | deliverBadge eventId userId => exact deliverBadge_ok chaves inscritos ok
  | createBedroom idEvent dto => exact createBedroom_ok chaves inscritos ok
  | updateBedroom idEvent idBedroom dto => exact updateBedroom_ok chaves inscritos ok

theorem saiSemCama_of_step {amb : Ambiente} {acao : Acao} (chaves : s.ComChaves)
    (inscritos : s.OcupantesInscritos) (depois : (s.step amb acao).OcupantesInscritos) :
    SaiSemCama amb s acao := by
  cases acao with
  | movedUserFromWaitlistToEvent userId userRemovedId eventId role agora =>
      intro isOk sai removed other ⟨o, o_mem, is_sai, quarto, quarto_mem, same, of_event⟩
      cases moved : movedUserFromWaitlistToEvent amb.quando s.db userId userRemovedId eventId role
          agora with
      | error e => simp [moved, Except.isOk, Except.toBool] at isOk
      | ok result =>
          obtain ⟨pessoa, quemSai, rfl, same_sai, stays⟩ :=
            movedUserFromWaitlistToEvent_inscrito chaves.emOrdem moved
          obtain rfl : sai = quemSai := Option.some.inj (removed.symm.trans same_sai)
          have after : s.step amb (.movedUserFromWaitlistToEvent (some pessoa) userRemovedId
              eventId role agora) = { s with db := result.1 } := by
            simp [step, executar, moved, Except.map]
          rw [after] at depois
          have before := inscritos o o_mem quarto quarto_mem same
          have still := depois o o_mem quarto quarto_mem same
          rw [is_sai, of_event] at before still
          rcases (stays sai eventId before).mp still with ⟨is_pessoa, _⟩ | keeps
          · exact absurd (congrArg some is_pessoa.symm) other
          · exact keeps rfl rfl
  | registerUserInEvent => trivial
  | updateUserFromEvent => trivial
  | removeUserFromEvent => trivial
  | deliverBadge => trivial
  | createBedroom => trivial
  | updateBedroom => trivial

/-- Every occupant is registered along a run exactly when, in every move of it, the person that
gives the place has no bed in the event or keeps a role in another group. -/
theorem ocupantesInscritos_run_iff (amb : Ambiente) (chaves : s.ComChaves)
    (inscritos : s.OcupantesInscritos) (acoes : List Acao) :
    Always (fun s => step s amb) OcupantesInscritos s acoes ↔
      EachStep (fun s => step s amb) (SaiSemCama amb) s acoes := by
  apply always_iff_eachStep_of_invariant (I := fun s => s.ComChaves ∧ s.OcupantesInscritos)
  · exact fun _ inv => inv.2
  · rintro s acao ⟨chaves, inscritos⟩ sai
    unfold step
    split
    · next depois ok => exact executar_ok chaves inscritos sai ok
    · exact ⟨chaves, inscritos⟩
  · rintro s acao ⟨chaves, inscritos⟩ depois
    exact saiSemCama_of_step chaves inscritos depois
  · exact ⟨chaves, inscritos⟩

/-! ### The ghost occupant -/

def vazia : Hospedagem where
  db := UmaVaga.vazio
  desligados := []
  bedrooms := []
  bedroomsOnUsers := []
  checkins := []
  proximoQuarto := 0

def ambiente : Ambiente where
  quando := UmaVaga.quando
  porNome := fun _ _ => true

/-- The first takes the place and a bed, the second waits and is then moved in her stead. -/
def trocaDeVaga : List Acao :=
  [.registerUserInEvent ⟨1, 5, [7], false, false, 0⟩,
    .createBedroom 5 { name := "Quarto 1", capacity := 2, groupTags := none, usersId := [1] },
    .registerUserInEvent ⟨2, 5, [7], false, false, 0⟩,
    .movedUserFromWaitlistToEvent (some 2) (some 1) 5 7 0]

/-- The first is out of the event and still has the bed. -/
theorem ocupanteFora_trocaDeVaga :
    ¬ (runFrom (fun s => step s ambiente) vazia trocaDeVaga).OcupantesInscritos := by
  intro fim
  have cama : (⟨1, 0⟩ : BedroomOnUser) ∈
      (runFrom (fun s => step s ambiente) vazia trocaDeVaga).bedroomsOnUsers := by
    decide +kernel
  have quarto : (⟨0, 5, "Quarto 1", some 2, []⟩ : Bedroom) ∈
      (runFrom (fun s => step s ambiente) vazia trocaDeVaga).bedrooms := by
    decide +kernel
  have inscrito := fim _ cama _ quarto rfl
  revert inscrito
  unfold Database.Inscrito
  decide +kernel

theorem not_ocupantesInscritos_trocaDeVaga :
    ¬ Always (fun s => step s ambiente) OcupantesInscritos vazia trocaDeVaga :=
  fun always => ocupanteFora_trocaDeVaga always.last

theorem comChaves_vazia : vazia.ComChaves where
  emOrdem := emOrdem_iff.mpr ⟨comChaves_vazio, lotacao_vazio⟩
  quartos := by simp [vazia]
  quarto_lt := by simp [vazia]
  ocupante_lt := by simp [vazia]

/-- In that run the place is given by somebody who has a bed. -/
theorem ocupantesInscritos_run_iff_trocaDeVaga :
    ¬ EachStep (fun s => step s ambiente) (SaiSemCama ambiente) vazia trocaDeVaga := by
  intro sai
  have always := (ocupantesInscritos_run_iff ambiente comChaves_vazia (fun _ mem => nomatch mem)
    trocaDeVaga).mpr sai
  exact ocupanteFora_trocaDeVaga always.last

end Hospedagem

end IccvBackend
