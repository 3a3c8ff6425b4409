/-
Module: IccvBackend.Proofs.Seats
Purpose: Seats, roles and tickets of the groups of an event, over every order of registrations,
  edits, moves from the waiting list and removals.
Trusted boundary: none
Main exports: Database.Lotacao, Database.EmOrdem, lotacao_run
-/
import IccvBackend.Event.Waitlist
import IccvBackend.Lib.Trail

namespace IccvBackend

open Lib

/-- How many role registrations there are in a group. -/
def Database.noGrupo (db : Database) (groupId : Id) : Nat :=
  db.inscricoes.countP fun i => db.catalogue.roleInGroup groupId i.roleRegistrationId

/-- A role of the group that this person has in this event. -/
def Inscricao.doGrupo (cat : Catalogue) (userId eventId groupId : Id) (i : Inscricao) : Bool :=
  i.userId = userId && i.eventId = eventId && cat.roleInGroup groupId i.roleRegistrationId

/-- The law of seats and registrations.  A negative capacity, which nothing refuses, takes
nobody. -/
structure Database.Lotacao (db : Database) : Prop where
  capacidade : ∀ group ∈ db.catalogue.groups, ∀ capacity, group.capacity = some capacity →
    (db.noGrupo group.id : Int) ≤ max capacity 0
  umPorGrupo : ∀ userId eventId groupId,
    db.inscricoes.countP (Inscricao.doGrupo db.catalogue userId eventId groupId) ≤ 1
  umPagamento : ∀ i ∈ db.inscricoes, (db.payments.countP fun p => p.inscricao = some i) = 1
  comInscricao : ∀ p ∈ db.payments, p.roleRegistrationId.isSome →
    ∃ i ∈ db.inscricoes, p.inscricao = some i

def EventOnUsers.chave (row : EventOnUsers) : Id × Id := (row.userId, row.eventId)

/-- The primary keys of groups and registrations, and roles held in their own event. -/
structure Database.ComChaves (db : Database) : Prop where
  grupos : (db.catalogue.groups.map GroupRoles.id).Nodup
  chaves : (db.eventOnUsers.map EventOnUsers.chave).Nodup
  doEvento : ∀ i ∈ db.inscricoes, ∃ pair ∈ db.catalogue.roles,
    pair.2.id = i.roleRegistrationId ∧ pair.1.eventId = i.eventId

/-! ### Roles and their groups -/

theorem Catalogue.roles_ids (cat : Catalogue) :
    (cat.roles.map fun pair => pair.2.id).Nodup := by
  have same : (cat.roles.map fun pair => pair.2.id) =
      cat.groups.flatMap fun group => group.roles.map RolesRegistration.id := by
    simp [Catalogue.roles, List.map_flatMap, Function.comp_def]
  exact same ▸ cat.roles_nodup

theorem Catalogue.roles_inj (cat : Catalogue) {pair other : GroupRoles × RolesRegistration}
    (mem : pair ∈ cat.roles) (mem' : other ∈ cat.roles) (same : pair.2.id = other.2.id) :
    pair = other :=
  List.inj_on_of_nodup_map cat.roles_ids mem mem' same

theorem Catalogue.group_mem (cat : Catalogue) {pair : GroupRoles × RolesRegistration}
    (mem : pair ∈ cat.roles) : pair.1 ∈ cat.groups := by
  obtain ⟨group, group_mem, paired⟩ := List.mem_flatMap.mp mem
  obtain ⟨role, _, rfl⟩ := List.mem_map.mp paired
  exact group_mem

/-- The group of a role of the catalogue. -/
theorem Catalogue.roleInGroup_iff (cat : Catalogue) {pair : GroupRoles × RolesRegistration}
    (mem : pair ∈ cat.roles) (groupId : Id) :
    cat.roleInGroup groupId pair.2.id = decide (pair.1.id = groupId) := by
  rw [Bool.eq_iff_iff, Catalogue.roleInGroup, List.any_eq_true, decide_eq_true_iff]
  constructor
  · rintro ⟨other, other_mem, both⟩
    simp only [Bool.and_eq_true, decide_eq_true_eq] at both
    rw [← cat.roles_inj other_mem mem both.1, both.2]
  · intro same
    exact ⟨pair, mem, by simp [same]⟩

/-! ### The table of role registrations after each write -/

/-- Two filters that agree where it matters, before and after a projection. -/
theorem flatMap_filter_eq {α β : Type} {f : α → List β} {p : α → Bool} {q : β → Bool}
    {rows : List α} (agree : ∀ row ∈ rows, ∀ b ∈ f row, p row = q b) :
    (rows.filter p).flatMap f = (rows.flatMap f).filter q := by
  induction rows with
  | nil => rfl
  | cons row rows ih =>
      have ih := ih fun row mem => agree row (List.mem_cons_of_mem _ mem)
      have here := agree row List.mem_cons_self
      rw [List.flatMap_cons, List.filter_append, ← ih]
      cases keep : p row with
      | true =>
          have all : (f row).filter q = f row :=
            List.filter_eq_self.mpr fun b mem => by rw [← here b mem, keep]
          simp [keep, all]
      | false =>
          have nothing : (f row).filter q = [] :=
            List.filter_eq_nil_iff.mpr fun b mem => by simp [← here b mem, keep]
          simp [keep, nothing]

section Escritas

variable {db : Database}

theorem mem_inscricoes_of_row {row : EventOnUsers} {i : Inscricao} (mem : i ∈ row.inscricoes) :
    i.userId = row.userId ∧ i.eventId = row.eventId := by
  obtain ⟨held, _, rfl⟩ := List.mem_map.mp mem
  exact ⟨rfl, rfl⟩

/-- The rows of one person in one event are what `findUnique` finds. -/
theorem mem_inscricoes_iff (chaves : (db.eventOnUsers.map EventOnUsers.chave).Nodup)
    {i : Inscricao} :
    i ∈ db.inscricoes ↔ ∃ held ∈ db.rolesOf i.userId i.eventId,
      held.roleRegistrationId = i.roleRegistrationId := by
  unfold Database.inscricoes Database.rolesOf Database.registration?
  rw [List.mem_flatMap]
  constructor
  · rintro ⟨row, row_mem, mem⟩
    have ⟨same_user, same_event⟩ := mem_inscricoes_of_row mem
    obtain ⟨held, held_mem, rfl⟩ := List.mem_map.mp mem
    have found : (db.eventOnUsers.find? fun other =>
        other.userId = row.userId && other.eventId = row.eventId) = some row := by
      cases look : db.eventOnUsers.find? fun other =>
          other.userId = row.userId && other.eventId = row.eventId with
      | none => simpa using List.find?_eq_none.mp look row row_mem
      | some other =>
          have same : other.chave = row.chave := by
            simpa [EventOnUsers.chave] using List.find?_some look
          rw [List.inj_on_of_nodup_map chaves (List.mem_of_find?_eq_some look) row_mem same]
    simp only [found]
    exact ⟨held, held_mem, rfl⟩
  · rintro ⟨held, held_mem, same⟩
    cases look : db.eventOnUsers.find? fun other =>
        other.userId = i.userId && other.eventId = i.eventId with
    | none => simp [look] at held_mem
    | some row =>
        have keys : row.userId = i.userId ∧ row.eventId = i.eventId := by
          simpa using List.find?_some look
        refine ⟨row, List.mem_of_find?_eq_some look, List.mem_map.mpr ⟨held, ?_, ?_⟩⟩
        · simpa [look] using held_mem
        · rw [keys.1, keys.2, same]

/-- Deleting the registration of a person in an event. -/
theorem inscricoes_filter (userId eventId : Id) :
    ((db.eventOnUsers.filter fun row =>
        !(row.userId = userId && row.eventId = eventId)).flatMap EventOnUsers.inscricoes) =
      db.inscricoes.filter fun i => !(i.userId = userId && i.eventId = eventId) := by
  apply flatMap_filter_eq
  intro row _ i mem
  have ⟨same_user, same_event⟩ := mem_inscricoes_of_row mem
  rw [same_user, same_event]

theorem inscricoes_deleteRolesInGroup (userId eventId groupId : Id) :
    (db.deleteRolesInGroup userId eventId groupId).inscricoes =
      db.inscricoes.filter fun i => !i.doGrupo db.catalogue userId eventId groupId := by
  unfold Database.inscricoes Database.deleteRolesInGroup
  rw [List.filter_flatMap, List.flatMap_map]
  congr 1
  funext row
  simp only [EventOnUsers.inscricoes, List.filter_map]
  by_cases here : row.userId = userId ∧ row.eventId = eventId
  · simp [here, Inscricao.doGrupo, Function.comp_def]
  · have other : (decide (row.userId = userId) && decide (row.eventId = eventId)) = false := by
      simpa using here
    have keep : row.rolesRegistration.filter ((fun i : Inscricao =>
        !i.doGrupo db.catalogue userId eventId groupId) ∘ fun held =>
          ⟨row.userId, row.eventId, held.roleRegistrationId⟩) = row.rolesRegistration := by
      apply List.filter_eq_self.mpr
      intro held _
      have fails : ¬ row.userId = userId ∨ ¬ row.eventId = eventId := not_and_or.mp here
      simp [Inscricao.doGrupo, fails]
    simp [other, keep]

theorem inscricoes_deleteEmptyRegistration (userId eventId : Id) :
    (db.deleteEmptyRegistration userId eventId).inscricoes = db.inscricoes := by
  unfold Database.inscricoes Database.deleteEmptyRegistration
  rw [flatMap_filter_eq (q := fun _ => true), List.filter_true]
  intro row _ i mem
  have some_role : row.rolesRegistration.isEmpty = false := by
    cases roles : row.rolesRegistration with
    | nil => simp [EventOnUsers.inscricoes, roles] at mem
    | cons held rest => rfl
  simp [some_role]

/-! ### The writes of a registration -/

/-- A role hung on the one row of a person adds one role registration. -/
theorem inscricoes_createRole {rows : List EventOnUsers}
    (chaves : (rows.map EventOnUsers.chave).Nodup) {userId eventId : Id} (roleId : Id)
    (present : (userId, eventId) ∈ rows.map EventOnUsers.chave) :
    ((rows.map fun row => if row.userId = userId && row.eventId = eventId then
        { row with rolesRegistration := row.rolesRegistration ++ [⟨roleId, none⟩] }
      else row).flatMap EventOnUsers.inscricoes).Perm
        (rows.flatMap EventOnUsers.inscricoes ++ [⟨userId, eventId, roleId⟩]) := by
  induction rows with
  | nil => simp at present
  | cons row rows ih =>
      rw [List.map_cons, List.nodup_cons] at chaves
      by_cases here : row.userId = userId ∧ row.eventId = eventId
      · have others : (rows.map fun row => if row.userId = userId && row.eventId = eventId then
            { row with rolesRegistration := row.rolesRegistration ++ [⟨roleId, none⟩] }
            else row) = rows := by
          conv_rhs => rw [← List.map_id rows]
          apply List.map_congr_left
          intro other mem
          have ne : ¬ (other.userId = userId ∧ other.eventId = eventId) := by
            rintro ⟨same_user, same_event⟩
            apply chaves.1
            have same : other.chave = row.chave := by
              simp [EventOnUsers.chave, same_user, same_event, here.1, here.2]
            exact same ▸ List.mem_map_of_mem mem
          simp only [Bool.and_eq_true, decide_eq_true_eq, ne, if_false, id_eq]
        simp only [List.map_cons, List.flatMap_cons, others, here.1, here.2, decide_true,
          Bool.and_self, if_true, EventOnUsers.inscricoes, List.map_append, List.map_nil,
          List.append_assoc]
        exact List.Perm.append_left _ List.perm_append_comm
      · have other : (decide (row.userId = userId) && decide (row.eventId = eventId)) = false := by
          simpa using here
        have there : (userId, eventId) ∈ rows.map EventOnUsers.chave := by
          rcases List.mem_cons.mp (List.map_cons ▸ present) with same | rest
          · exact absurd ⟨(Prod.mk.inj same).1.symm, (Prod.mk.inj same).2.symm⟩ here
          · exact rest
        simp only [List.map_cons, List.flatMap_cons, other, Bool.false_eq_true, if_false,
          List.append_assoc]
        exact (ih chaves.2 there).append_left _

theorem chaves_modifyRegistration (userId eventId : Id) {f : EventOnUsers → EventOnUsers}
    (same : ∀ row, (f row).chave = row.chave) :
    (db.modifyRegistration userId eventId f).eventOnUsers.map EventOnUsers.chave =
      db.eventOnUsers.map EventOnUsers.chave := by
  simp only [Database.modifyRegistration, List.map_map]
  congr 1
  funext row
  simp only [Function.comp_apply]
  split <;> simp [same]

theorem registration?_eq_none_iff {userId eventId : Id} :
    db.registration? userId eventId = none ↔
      (userId, eventId) ∉ db.eventOnUsers.map EventOnUsers.chave := by
  simp only [Database.registration?, List.find?_eq_none, List.mem_map, EventOnUsers.chave,
    Prod.mk.injEq, Bool.and_eq_true, decide_eq_true_eq, not_exists, not_and]

/-- After an upsert the person has a row, the others kept theirs, and no role changed. -/
theorem upsertRegistration_inscricoes (chaves : (db.eventOnUsers.map EventOnUsers.chave).Nodup)
    (userId eventId : Id) (minor : MinorApprovalStatus) (aceite : Option Instant) :
    ((db.upsertRegistration userId eventId minor aceite).eventOnUsers.map
        EventOnUsers.chave).Nodup ∧
      (userId, eventId) ∈ (db.upsertRegistration userId eventId minor aceite).eventOnUsers.map
        EventOnUsers.chave ∧
      (db.upsertRegistration userId eventId minor aceite).inscricoes = db.inscricoes := by
  unfold Database.upsertRegistration
  cases found : db.registration? userId eventId with
  | some row =>
      dsimp only
      rw [chaves_modifyRegistration]
      case same => exact fun _ => rfl
      refine ⟨chaves, ?_, ?_⟩
      · by_contra absent
        rw [registration?_eq_none_iff.mpr absent] at found
        exact nomatch found
      · simp only [Database.inscricoes, Database.modifyRegistration, List.flatMap_map]
        congr 1
        funext row
        split <;> rfl
  | none =>
      refine ⟨?_, ?_, ?_⟩
      · simp only [List.map_append, List.map_cons, List.map_nil]
        refine List.nodup_append.mpr ⟨chaves, List.nodup_singleton _, ?_⟩
        intro key mem new new_mem
        obtain rfl : new = (userId, eventId) := by
          simpa [EventOnUsers.chave, Database.newRegistration] using new_mem
        rintro rfl
        exact registration?_eq_none_iff.mp found mem
      · simp [EventOnUsers.chave, Database.newRegistration]
      · simp [Database.inscricoes, EventOnUsers.inscricoes, Database.newRegistration]

/-- A registered role adds its row. -/
theorem inscrever_inscricoes (chaves : (db.eventOnUsers.map EventOnUsers.chave).Nodup)
    (request : RegistrationRequest) (minor : MinorApprovalStatus) (role : RolesRegistration) :
    ((db.inscrever request minor role).eventOnUsers.map EventOnUsers.chave).Nodup ∧
      (db.inscrever request minor role).inscricoes.Perm
        (db.inscricoes ++ [⟨request.userId, request.eventId, role.id⟩]) := by
  obtain ⟨nodup, present, same⟩ := upsertRegistration_inscricoes chaves request.userId
    request.eventId minor (if request.aceitouTermo then some request.agora else none)
  constructor
  · simp only [Database.inscrever, Database.createRoleRegistration, Database.createPayment]
    rw [chaves_modifyRegistration]
    · exact nodup
    · exact fun _ => rfl
  · have hung := inscricoes_createRole nodup role.id present
    exact hung.trans (List.Perm.of_eq (congrArg (· ++ [_]) same))

theorem inscrever_waitlist (request : RegistrationRequest) (minor : MinorApprovalStatus)
    (role : RolesRegistration) : (db.inscrever request minor role).waitlist = db.waitlist := by
  simp only [Database.inscrever, Database.createRoleRegistration, Database.createPayment,
    Database.modifyRegistration, Database.upsertRegistration]
  split <;> rfl

/-- What the loop of a registration leaves: the roles with a vacancy are registered, the others
wait. -/
theorem foldl_registerRole_inscricoes (request : RegistrationRequest)
    (minor : MinorApprovalStatus) (count : Id → Nat)
    (roles : List (GroupRoles × RolesRegistration)) :
    ∀ state : Database × List (Id × ResultType),
      (state.1.eventOnUsers.map EventOnUsers.chave).Nodup →
      ((roles.foldl (registerRole request minor count) state).1.eventOnUsers.map
          EventOnUsers.chave).Nodup ∧
        (roles.foldl (registerRole request minor count) state).1.inscricoes.Perm
          (state.1.inscricoes ++ (roles.filter fun role => !lotado count role).map fun role =>
            ⟨request.userId, request.eventId, role.2.id⟩) ∧
        (roles.foldl (registerRole request minor count) state).1.waitlist =
          state.1.waitlist ++ (roles.filter fun role => lotado count role).map fun role =>
            ⟨request.userId, request.eventId, role.2.id⟩ := by
  induction roles with
  | nil => exact fun state chaves => ⟨chaves, by simp, by simp⟩
  | cons role roles ih =>
      intro state chaves
      rw [List.foldl_cons]
      by_cases full : lotado count role = true
      · have waits : (registerRole request minor count state role).1 =
            state.1.createWaitlist request.userId request.eventId role.2.id := by
          rw [registerRole, if_pos full]
        obtain ⟨nodup, inscricoes, waitlist⟩ :=
          ih (registerRole request minor count state role) (by rw [waits]; exact chaves)
        refine ⟨nodup, ?_, ?_⟩
        · rw [List.filter_cons_of_neg (by simp [full])]
          rw [waits] at inscricoes
          exact inscricoes
        · rw [waitlist, waits, List.filter_cons_of_pos full]
          simp [Database.createWaitlist]
      · have registers : (registerRole request minor count state role).1 =
            state.1.inscrever request minor role.2 := by rw [registerRole, if_neg full]
        obtain ⟨nodup_here, added⟩ := inscrever_inscricoes chaves request minor role.2
        obtain ⟨nodup, inscricoes, waitlist⟩ :=
          ih (registerRole request minor count state role) (by rw [registers]; exact nodup_here)
        refine ⟨nodup, ?_, ?_⟩
        · rw [List.filter_cons_of_pos (by simp [full])]
          rw [registers] at inscricoes
          refine inscricoes.trans ((added.append_right _).trans ?_)
          simp
        · rw [waitlist, registers, inscrever_waitlist, List.filter_cons_of_neg (by simp [full])]

end Escritas

/-! ### The invariant -/

/-- The law of seats with one ticket payment for each role registration, as one list against the
other. -/
structure Database.EmOrdem (db : Database) : Prop extends db.ComChaves where
  capacidade : ∀ group ∈ db.catalogue.groups, ∀ capacity, group.capacity = some capacity →
    (db.noGrupo group.id : Int) ≤ max capacity 0
  umPorGrupo : ∀ userId eventId groupId,
    db.inscricoes.countP (Inscricao.doGrupo db.catalogue userId eventId groupId) ≤ 1
  ingressos : (db.payments.filterMap Payment.inscricao).Perm db.inscricoes
  completos : ∀ p ∈ db.payments, p.roleRegistrationId.isSome → p.inscricao.isSome

section Invariante

variable {db depois : Database}

theorem nodup_inscricoes (chaves : db.ComChaves)
    (umPorGrupo : ∀ userId eventId groupId,
      db.inscricoes.countP (Inscricao.doGrupo db.catalogue userId eventId groupId) ≤ 1) :
    db.inscricoes.Nodup := by
  rw [List.nodup_iff_count_le_one]
  intro i
  by_cases mem : i ∈ db.inscricoes
  · obtain ⟨pair, pair_mem, role, _⟩ := chaves.doEvento i mem
    have inGroup : db.catalogue.roleInGroup pair.1.id i.roleRegistrationId = true := by
      rw [← role, db.catalogue.roleInGroup_iff pair_mem]
      exact decide_eq_true rfl
    refine le_trans ?_ (umPorGrupo i.userId i.eventId pair.1.id)
    rw [List.count]
    apply List.countP_mono_left
    intro other _ same
    obtain rfl : other = i := by simpa using same
    simp [Inscricao.doGrupo, inGroup]
  · rw [List.count_eq_zero_of_not_mem mem]
    exact Nat.zero_le _

theorem inscricao_isSome {p : Payment} {i : Inscricao} (of : p.inscricao = some i) :
    p.userId = some i.userId ∧ p.eventId = some i.eventId ∧
      p.roleRegistrationId = some i.roleRegistrationId := by
  unfold Payment.inscricao at of
  cases user : p.userId <;> cases event : p.eventId <;> cases role : p.roleRegistrationId <;>
    simp_all
  rw [← of]
  exact ⟨rfl, rfl, rfl⟩

theorem count_filterMap_inscricao (payments : List Payment) (i : Inscricao) :
    (payments.filterMap Payment.inscricao).count i =
      payments.countP fun p => p.inscricao = some i := by
  induction payments with
  | nil => rfl
  | cons p payments ih =>
      cases of : p.inscricao with
      | none => simp [of, ih]
      | some j => by_cases same : j = i <;> simp [of, ih, same]

/-- The law and the primary keys are the invariant. -/
theorem emOrdem_iff : db.EmOrdem ↔ db.ComChaves ∧ db.Lotacao := by
  constructor
  · intro ordem
    refine ⟨ordem.toComChaves, ordem.capacidade, ordem.umPorGrupo, ?_, ?_⟩
    · intro i mem
      have nodup := nodup_inscricoes ordem.toComChaves ordem.umPorGrupo
      rw [← count_filterMap_inscricao, ordem.ingressos.count_eq, List.count_eq_one_of_mem nodup mem]
    · intro p mem role
      obtain ⟨i, of⟩ := Option.isSome_iff_exists.mp (ordem.completos p mem role)
      exact ⟨i, ordem.ingressos.subset (List.mem_filterMap.mpr ⟨p, mem, of⟩), of⟩
  · rintro ⟨chaves, lei⟩
    refine ⟨chaves, lei.capacidade, lei.umPorGrupo, ?_, ?_⟩
    · rw [List.perm_iff_count]
      intro i
      rw [count_filterMap_inscricao]
      by_cases mem : i ∈ db.inscricoes
      · rw [lei.umPagamento i mem,
          List.count_eq_one_of_mem (nodup_inscricoes chaves lei.umPorGrupo) mem]
      · rw [List.count_eq_zero_of_not_mem mem, List.countP_eq_zero]
        intro p p_mem same
        have of : p.inscricao = some i := by simpa using same
        obtain ⟨j, j_mem, of'⟩ := lei.comInscricao p p_mem (by simp [(inscricao_isSome of).2.2])
        obtain rfl : i = j := Option.some.inj (of.symm.trans of')
        exact mem j_mem
    · intro p mem role
      obtain ⟨i, _, of⟩ := lei.comInscricao p mem role
      simp [of]

/-- A deletion that takes role registrations and their payments together keeps the order. -/
theorem Database.EmOrdem.apagar (ordem : db.EmOrdem) (p : Payment → Bool) (q : Inscricao → Bool)
    (catalogue : depois.catalogue = db.catalogue)
    (rows : (depois.eventOnUsers.map EventOnUsers.chave).Sublist
      (db.eventOnUsers.map EventOnUsers.chave))
    (inscricoes : depois.inscricoes = db.inscricoes.filter q)
    (payments : depois.payments = db.payments.filter p)
    (agree : ∀ x ∈ db.payments, ∀ i, x.inscricao = some i → p x = q i) : depois.EmOrdem where
  grupos := catalogue ▸ ordem.grupos
  chaves := ordem.chaves.sublist rows
  doEvento := by
    intro i mem
    rw [inscricoes] at mem
    rw [catalogue]
    exact ordem.doEvento i (List.mem_filter.mp mem).1
  capacidade := by
    intro group mem capacity has
    rw [catalogue] at mem
    refine le_trans ?_ (ordem.capacidade group mem capacity has)
    simp only [Database.noGrupo, inscricoes, catalogue]
    exact_mod_cast List.Sublist.countP_le List.filter_sublist
  umPorGrupo := by
    intro userId eventId groupId
    rw [inscricoes, catalogue]
    exact (List.Sublist.countP_le List.filter_sublist).trans
      (ordem.umPorGrupo userId eventId groupId)
  ingressos := by
    rw [payments, inscricoes, filterMap_filter_eq agree]
    exact ordem.ingressos.filter q
  completos := by
    intro x mem
    rw [payments] at mem
    exact ordem.completos x (List.mem_filter.mp mem).1

/-- The payments of the role registrations selected for deletion are the tickets that go. -/
theorem Database.EmOrdem.ticketOf_eq (ordem : db.EmOrdem) (userId eventId : Id)
    (selected : EventOnUsersRolesRegistration → Bool) (byRole : Id → Bool)
    (selects : ∀ held, selected held = byRole held.roleRegistrationId) {x : Payment}
    (mem : x ∈ db.payments) {i : Inscricao} (of : x.inscricao = some i) :
    Database.ticketOf userId eventId ((db.rolesOf userId eventId).filter selected) x =
      (i.userId = userId && i.eventId = eventId && byRole i.roleRegistrationId) := by
  have ⟨user, event, role⟩ := inscricao_isSome of
  have held_mem := ordem.ingressos.subset (List.mem_filterMap.mpr ⟨x, mem, of⟩)
  obtain ⟨held, there, same⟩ := (mem_inscricoes_iff ordem.chaves).mp held_mem
  unfold Database.ticketOf
  rw [user, event, role, Bool.eq_iff_iff]
  simp only [Bool.and_eq_true, decide_eq_true_eq, Option.some.injEq, List.any_eq_true,
    List.mem_filter, selects]
  constructor
  · rintro ⟨⟨same_user, same_event⟩, other, ⟨_, passes⟩, same_role⟩
    exact ⟨⟨same_user, same_event⟩, same_role ▸ passes⟩
  · rintro ⟨⟨rfl, rfl⟩, passes⟩
    exact ⟨⟨rfl, rfl⟩, held, ⟨there, same ▸ passes⟩, same.symm⟩

theorem Database.EmOrdem.deleteRegistration (ordem : db.EmOrdem) (userId eventId : Id) :
    (db.deleteRegistration userId eventId).EmOrdem := by
  refine ordem.apagar (fun x => !Database.ticketOf userId eventId (db.rolesOf userId eventId) x)
    (fun i => !(i.userId = userId && i.eventId = eventId)) rfl ?_ ?_ rfl ?_
  · exact List.filter_sublist.map _
  · exact inscricoes_filter userId eventId
  · intro x mem i of
    have same := ordem.ticketOf_eq userId eventId (fun _ => true) (fun _ => true)
      (fun _ => rfl) mem of
    simp only [List.filter_true, Bool.and_true] at same
    rw [same]

theorem Database.EmOrdem.removeUserFromEventTx (ordem : db.EmOrdem) (idUser idEvent : Id) :
    (removeUserFromEventTx db idUser idEvent).EmOrdem := by
  refine ordem.apagar (fun x => !(x.userId = some idUser && x.eventId = some idEvent &&
    x.roleRegistrationId.isSome)) (fun i => !(i.userId = idUser && i.eventId = idEvent)) rfl ?_ ?_
      rfl ?_
  · exact List.filter_sublist.map _
  · exact inscricoes_filter idUser idEvent
  · intro x _ i of
    have ⟨user, event, role⟩ := inscricao_isSome of
    simp [user, event, role]

theorem Database.EmOrdem.deleteRolesInGroup (ordem : db.EmOrdem) (userId eventId groupId : Id) :
    (db.deleteRolesInGroup userId eventId groupId).EmOrdem := by
  refine ordem.apagar (fun x => !Database.ticketOf userId eventId
      ((db.rolesOf userId eventId).filter fun held =>
        db.catalogue.roleInGroup groupId held.roleRegistrationId) x)
    (fun i => !i.doGrupo db.catalogue userId eventId groupId) rfl ?_ ?_ rfl ?_
  · have same : (db.deleteRolesInGroup userId eventId groupId).eventOnUsers.map
        EventOnUsers.chave = db.eventOnUsers.map EventOnUsers.chave := by
      simp only [Database.deleteRolesInGroup, List.map_map]
      congr 1
      funext row
      simp only [Function.comp_apply]
      split <;> rfl
    rw [same]
  · exact inscricoes_deleteRolesInGroup userId eventId groupId
  · intro x mem i of
    rw [ordem.ticketOf_eq userId eventId _ (db.catalogue.roleInGroup groupId) (fun _ => rfl) mem of]
    rfl

theorem Database.EmOrdem.deleteEmptyRegistration (ordem : db.EmOrdem) (userId eventId : Id) :
    (db.deleteEmptyRegistration userId eventId).EmOrdem := by
  refine ordem.apagar (fun _ => true) (fun _ => true) rfl ?_ ?_ ?_ fun _ _ _ _ => rfl
  · exact List.filter_sublist.map _
  · rw [inscricoes_deleteEmptyRegistration, List.filter_true]
  · rw [List.filter_true]
    rfl

theorem Database.EmOrdem.cederVaga (ordem : db.EmOrdem) (entry : Waitlist)
    (userRemovedId groupId : Id) : (db.cederVaga entry userRemovedId groupId).EmOrdem := by
  have left : (db.deleteWaitlistEntry entry).EmOrdem :=
    ⟨⟨ordem.grupos, ordem.chaves, ordem.doEvento⟩, ordem.capacidade, ordem.umPorGrupo,
      ordem.ingressos, ordem.completos⟩
  exact (left.deleteRolesInGroup _ _ _).deleteEmptyRegistration _ _

/-! ### A registration keeps the order -/

section Registro

variable {request : RegistrationRequest} {user : User} {event : Event}
  {result : Database × List (Id × ResultType)}

/-- The role registrations a request adds. -/
def RegistrationRequest.novas (request : RegistrationRequest) (db : Database) : List Inscricao :=
  (request.comVaga db).map fun role => ⟨request.userId, request.eventId, role.2.id⟩

/-- The entries a request adds to the waiting list. -/
def RegistrationRequest.esperas (request : RegistrationRequest) (db : Database) : List Waitlist :=
  ((request.roles db.catalogue).filter fun role => lotado (db.countInGroup request.eventId)
    role).map fun role => ⟨request.userId, request.eventId, role.2.id⟩

theorem Registrou.inscricoes (registrou : Registrou db request user event result)
    (chaves : (db.eventOnUsers.map EventOnUsers.chave).Nodup) :
    (result.1.eventOnUsers.map EventOnUsers.chave).Nodup ∧
      result.1.inscricoes.Perm (db.inscricoes ++ request.novas db) ∧
      result.1.waitlist = db.waitlist ++ request.esperas db := by
  rw [registrou.result]
  exact foldl_registerRole_inscricoes request _ _ _ (db, []) chaves

theorem mem_roles_of_request {role : GroupRoles × RolesRegistration}
    (mem : role ∈ request.roles db.catalogue) :
    role ∈ db.catalogue.roles ∧ role.2.id ∈ request.registrationRoleIds ∧
      role.1.eventId = request.eventId := by
  have ⟨there, asked⟩ := List.mem_filter.mp mem
  simp only [Bool.and_eq_true, decide_eq_true_eq] at asked
  exact ⟨there, asked⟩

/-- A group of the event is counted as `count` does it. -/
theorem Database.ComChaves.noGrupo_eq (chaves : db.ComChaves)
    {role : GroupRoles × RolesRegistration} (mem : role ∈ db.catalogue.roles) :
    db.noGrupo role.1.id = db.countInGroup role.1.eventId role.1.id := by
  have rows : db.countInGroup role.1.eventId role.1.id =
      ((db.eventOnUsers.filter fun row => row.eventId = role.1.eventId).flatMap
        EventOnUsers.inscricoes).countP fun i =>
          db.catalogue.roleInGroup role.1.id i.roleRegistrationId := by
    rw [List.countP_flatMap, Database.countInGroup]
    congr 2
    funext row
    simp only [Function.comp_apply, EventOnUsers.inscricoes, List.countP_map]
    rfl
  have ofEvent : ((db.eventOnUsers.filter fun row => row.eventId = role.1.eventId).flatMap
      EventOnUsers.inscricoes) = db.inscricoes.filter fun i => i.eventId = role.1.eventId := by
    apply flatMap_filter_eq
    intro row _ i mem
    rw [(mem_inscricoes_of_row mem).2]
  rw [rows, ofEvent, List.countP_filter, Database.noGrupo]
  apply List.countP_congr
  intro i i_mem
  simp only [Bool.and_eq_true, decide_eq_true_eq, iff_self_and]
  intro inGroup
  obtain ⟨pair, pair_mem, same_role, same_event⟩ := chaves.doEvento i i_mem
  rw [← same_role, db.catalogue.roleInGroup_iff pair_mem] at inGroup
  have group : pair.1 = role.1 :=
    List.inj_on_of_nodup_map chaves.grupos (db.catalogue.group_mem pair_mem)
      (db.catalogue.group_mem mem) (of_decide_eq_true inGroup)
  rw [← same_event, group]

/-- Of one group a request adds a role at most, and then the group had a vacancy. -/
theorem countP_novas_le_one (registrou : Registrou db request user event result) (groupId : Id) :
    (request.novas db).countP (fun i => db.catalogue.roleInGroup groupId i.roleRegistrationId) ≤
      1 := by
  have once : ((request.comVaga db).map fun role => role.1.id).Nodup :=
    registrou.groups_nodup.sublist (List.filter_sublist.map _)
  have same : (request.novas db).countP
      (fun i => db.catalogue.roleInGroup groupId i.roleRegistrationId) =
        ((request.comVaga db).map fun role => role.1.id).count groupId := by
    rw [RegistrationRequest.novas, List.countP_map, List.count, List.countP_map]
    apply List.countP_congr
    intro role mem
    have there := (mem_roles_of_request (List.mem_filter.mp mem).1).1
    simp [Function.comp_apply, db.catalogue.roleInGroup_iff there]
  rw [same]
  exact List.nodup_iff_count_le_one.mp once groupId

theorem exists_of_countP_novas (db : Database) (request : RegistrationRequest) {groupId : Id}
    (some_new : (request.novas db).countP
      (fun i => db.catalogue.roleInGroup groupId i.roleRegistrationId) ≠ 0) :
    ∃ role ∈ request.roles db.catalogue, role.1.id = groupId ∧
      lotado (db.countInGroup request.eventId) role = false := by
  obtain ⟨i, mem, inGroup⟩ := List.countP_pos_iff.mp (Nat.pos_of_ne_zero some_new)
  obtain ⟨role, role_mem, rfl⟩ := List.mem_map.mp mem
  have ⟨asked, vacancy⟩ := List.mem_filter.mp role_mem
  rw [db.catalogue.roleInGroup_iff (mem_roles_of_request asked).1] at inGroup
  exact ⟨role, asked, of_decide_eq_true inGroup, by simpa using vacancy⟩

/-- The person had no role in a group she asks for. -/
theorem Registrou.fora_do_grupo (registrou : Registrou db request user event result)
    (chaves : (db.eventOnUsers.map EventOnUsers.chave).Nodup) {i : Inscricao}
    (mem : i ∈ db.inscricoes) (same_user : i.userId = request.userId)
    (same_event : i.eventId = request.eventId) {role : GroupRoles × RolesRegistration}
    (asked : role ∈ request.roles db.catalogue) :
    db.catalogue.roleInGroup role.1.id i.roleRegistrationId = false := by
  cases inGroup : db.catalogue.roleInGroup role.1.id i.roleRegistrationId with
  | false => rfl
  | true =>
      exfalso
      obtain ⟨pair, pair_mem, both⟩ := List.any_eq_true.mp inGroup
      simp only [Bool.and_eq_true, decide_eq_true_eq] at both
      obtain ⟨held, held_mem, held_role⟩ := (mem_inscricoes_iff chaves).mp mem
      apply registrou.other_groups role asked
      rw [← both.2]
      refine List.mem_map_of_mem
        (List.mem_filter.mpr ⟨pair_mem, List.any_eq_true.mpr ⟨held, ?_, ?_⟩⟩)
      · rw [← same_user, ← same_event]
        exact held_mem
      · simp [held_role, both.1]

theorem Registrou.umPorGrupo (registrou : Registrou db request user event result)
    (ordem : db.EmOrdem) (userId eventId groupId : Id) :
    (db.inscricoes ++ request.novas db).countP
      (Inscricao.doGrupo db.catalogue userId eventId groupId) ≤ 1 := by
  rw [List.countP_append]
  have before := ordem.umPorGrupo userId eventId groupId
  have le := countP_novas_le_one registrou groupId
  have narrower : (request.novas db).countP
      (Inscricao.doGrupo db.catalogue userId eventId groupId) ≤ (request.novas db).countP
        fun i => db.catalogue.roleInGroup groupId i.roleRegistrationId := by
    apply List.countP_mono_left
    intro i _ both
    simp only [Inscricao.doGrupo, Bool.and_eq_true] at both
    exact both.2
  by_cases added : (request.novas db).countP
      (Inscricao.doGrupo db.catalogue userId eventId groupId) = 0
  · omega
  · -- the request adds a role of the group, so the person had none there
    obtain ⟨i, mem, both⟩ := List.countP_pos_iff.mp (Nat.pos_of_ne_zero added)
    obtain ⟨_, _, rfl⟩ := List.mem_map.mp mem
    simp only [Inscricao.doGrupo, Bool.and_eq_true, decide_eq_true_eq] at both
    obtain ⟨⟨rfl, rfl⟩, _⟩ := both
    have some_new : (request.novas db).countP
        (fun i => db.catalogue.roleInGroup groupId i.roleRegistrationId) ≠ 0 := by
      omega
    obtain ⟨role, asked, rfl, _⟩ := exists_of_countP_novas db request some_new
    have none_before : db.inscricoes.countP
        (Inscricao.doGrupo db.catalogue request.userId request.eventId role.1.id) = 0 := by
      rw [List.countP_eq_zero]
      intro i i_mem both
      simp only [Inscricao.doGrupo, Bool.and_eq_true, decide_eq_true_eq] at both
      have out := registrou.fora_do_grupo ordem.chaves i_mem both.1.1 both.1.2 asked
      exact Bool.false_ne_true (out.symm.trans both.2)
    omega

theorem Registrou.capacidade (registrou : Registrou db request user event result)
    (ordem : db.EmOrdem) {group : GroupRoles} (mem : group ∈ db.catalogue.groups) {capacity : Int}
    (has : group.capacity = some capacity) :
    ((db.inscricoes ++ request.novas db).countP fun i =>
      db.catalogue.roleInGroup group.id i.roleRegistrationId : Int) ≤ max capacity 0 := by
  rw [List.countP_append]
  have before := ordem.capacidade group mem capacity has
  have le := countP_novas_le_one registrou group.id
  simp only [Database.noGrupo] at before
  by_cases added : (request.novas db).countP
      (fun i => db.catalogue.roleInGroup group.id i.roleRegistrationId) = 0
  · push_cast
    omega
  · obtain ⟨role, asked, same, vacancy⟩ := exists_of_countP_novas db request added
    have ⟨there, _, same_event⟩ := mem_roles_of_request asked
    obtain rfl : role.1 = group :=
      List.inj_on_of_nodup_map ordem.grupos (db.catalogue.group_mem there) mem same
    have counted := ordem.noGrupo_eq there
    rw [same_event] at counted
    have below : (db.countInGroup request.eventId role.1.id : Int) < capacity := by
      simpa [lotado, has] using vacancy
    rw [← counted, Database.noGrupo] at below
    push_cast
    omega

theorem Registrou.emOrdem (registrou : Registrou db request user event result)
    (ordem : db.EmOrdem) : result.1.EmOrdem := by
  obtain ⟨chaves, inscricoes, _⟩ := registrou.inscricoes ordem.chaves
  obtain ⟨novos, payments, tickets⟩ := registrou.payments
  have catalogue := registrou.catalogue
  have keys : ∀ (p : Payment) (role : GroupRoles × RolesRegistration),
      (∃ id ≥ db.nextId, p = (ticketPayment request role.2).row id) →
        p.inscricao = some ⟨request.userId, request.eventId, role.2.id⟩ := by
    rintro p role ⟨id, _, rfl⟩
    rfl
  have novos_keys : novos.filterMap Payment.inscricao = request.novas db := by
    unfold RegistrationRequest.novas
    clear payments
    generalize request.comVaga db = roles at tickets
    induction tickets with
    | nil => rfl
    | cons ticket _ ih => simp [keys _ _ ticket, ih]
  constructor
  case toComChaves =>
    refine ⟨catalogue ▸ ordem.grupos, chaves, ?_⟩
    intro i mem
    rw [catalogue]
    rcases List.mem_append.mp (inscricoes.subset mem) with old | new
    · exact ordem.doEvento i old
    · obtain ⟨role, role_mem, rfl⟩ := List.mem_map.mp new
      have ⟨there, _, same_event⟩ := mem_roles_of_request (List.mem_filter.mp role_mem).1
      exact ⟨role, there, rfl, same_event⟩
  case capacidade =>
    intro group mem capacity has
    rw [catalogue] at mem
    rw [Database.noGrupo, inscricoes.countP_eq, catalogue]
    exact registrou.capacidade ordem mem has
  case umPorGrupo =>
    intro userId eventId groupId
    rw [inscricoes.countP_eq, catalogue]
    exact registrou.umPorGrupo ordem userId eventId groupId
  case ingressos =>
    rw [payments, List.filterMap_append, novos_keys]
    exact (ordem.ingressos.append_right _).trans inscricoes.symm
  case completos =>
    intro p mem role
    rcases registrou.new_ticket mem with old | ⟨ticket, _, new⟩
    · exact ordem.completos p old role
    · rw [keys p ticket new]
      rfl

end Registro

end Invariante

/-! ### Runs -/

/-- A move that went through: the entry was found, its role is of the catalogue, and after the place
was given the person registered in it. -/
theorem movedUserFromWaitlistToEvent_ok {quando : Instant → String} {db : Database}
    {userId userRemovedId : Option Id} {eventId roleId : Id} {agora : Instant}
    {result : Database × List (Id × ResultType)}
    (ok : movedUserFromWaitlistToEvent quando db userId userRemovedId eventId roleId agora =
      .ok result) :
    ∃ pessoa sai entry role, userId = some pessoa ∧ userRemovedId = some sai ∧
      db.waitlistEntry? pessoa eventId roleId = some entry ∧
      (db.catalogue.roles.find? fun pair => pair.2.id = roleId) = some role ∧
      (∃ user event, Registrou (db.cederVaga entry sai role.1.id)
        ⟨pessoa, eventId, [entry.roleRegistrationId], false, false, agora⟩ user event result) ∧
      ∀ r ∈ result.2.head?, r.2 = .registered := by
  unfold movedUserFromWaitlistToEvent at ok
  simp only [bind_eq_ok_iff, orFail_eq_ok_iff, failIf_eq_ok_iff, pure_eq_ok_iff] at ok
  obtain ⟨pessoa, rfl, sai, rfl, entry, found, role, role_found, result', registered, _,
    no_waitlist, rfl⟩ := ok
  refine ⟨pessoa, sai, entry, role, rfl, rfl, found, role_found, registerUserInEvent_ok registered,
    fun r mem => ?_⟩
  cases type : r.2 with
  | registered => rfl
  | waitlist =>
      rw [Option.mem_def] at mem
      simp [mem, type] at no_waitlist

theorem emOrdem_executar {quando : Instant → String} {db depois : Database}
    {acao : AcaoDeInscricao} (ordem : db.EmOrdem) (ok : acao.executar quando db = .ok depois) :
    depois.EmOrdem := by
  cases acao with
  | registerUserInEvent request =>
      obtain ⟨result, registered, rfl⟩ := except_map_eq_ok_iff.mp ok
      obtain ⟨user, event, registrou⟩ := registerUserInEvent_ok registered
      exact registrou.emOrdem ordem
  | updateUserFromEvent userId eventId roles agora =>
      obtain ⟨result, edited, rfl⟩ := except_map_eq_ok_iff.mp ok
      obtain ⟨_, ⟨user, event, registrou⟩, _⟩ := updateUserFromEvent_ok edited
      exact registrou.emOrdem (ordem.deleteRegistration userId eventId)
  | movedUserFromWaitlistToEvent userId userRemovedId eventId role agora =>
      obtain ⟨result, moved, rfl⟩ := except_map_eq_ok_iff.mp ok
      obtain ⟨_, sai, entry, pair, _, _, _, _, ⟨user, event, registrou⟩, _⟩ :=
        movedUserFromWaitlistToEvent_ok moved
      exact registrou.emOrdem (ordem.cederVaga entry sai pair.1.id)
  | removeUserFromEvent idUser idEvent role =>
      unfold AcaoDeInscricao.executar removeUserFromEvent at ok
      simp only [bind_eq_ok_iff, pure_eq_ok_iff] at ok
      obtain ⟨_, _, rfl⟩ := ok
      exact ordem.removeUserFromEventTx idUser idEvent
  | removeUserFromWaitlist idUser idEvent role =>
      unfold AcaoDeInscricao.executar removeUserFromWaitlist at ok
      simp only [bind_eq_ok_iff, orFail_eq_ok_iff, pure_eq_ok_iff] at ok
      obtain ⟨entry, _, rfl⟩ := ok
      exact ⟨⟨ordem.grupos, ordem.chaves, ordem.doEvento⟩, ordem.capacidade, ordem.umPorGrupo,
        ordem.ingressos, ordem.completos⟩

theorem emOrdem_inscrevendo {quando : Instant → String} {db : Database} {acao : AcaoDeInscricao}
    (ordem : db.EmOrdem) : (db.inscrevendo quando acao).EmOrdem := by
  unfold Database.inscrevendo
  split
  · next depois ok => exact emOrdem_executar ordem ok
  · exact ordem

/-- The law of seats and registrations holds along every run that starts from it. -/
theorem lotacao_run (quando : Instant → String) {db : Database} (chaves : db.ComChaves)
    (lotacao : db.Lotacao) (acoes : List AcaoDeInscricao) :
    Always (Database.inscrevendo quando) Database.Lotacao db acoes :=
  (always_of_step (fun _ _ ordem => emOrdem_inscrevendo ordem)
    (emOrdem_iff.mpr ⟨chaves, lotacao⟩) acoes).mono fun _ ordem => (emOrdem_iff.mp ordem).2

/-! ### An event with one place

A group of two roles and one place, and three people. -/

namespace UmaVaga

def pessoa (id : Id) : User where
  id := id
  fullName := "Participante"
  email := "participante@igreja"
  cpf := "00000000000"
  cellphone := "11999999999"
  birthday := ⟨1990, 1, 1⟩
  blocked := false

def evento : Event where
  id := 5
  churchId := 1
  name := "Retiro"
  status := .active
  startDate := ⟨2025, 7, 1⟩
  endDate := none
  publicStore := false
  minorAgeLimitIs18 := true

def grupo : GroupRoles where
  id := 6
  eventId := 5
  name := "Adultos"
  capacity := some 1
  active := true
  opensAt := none
  closesAt := none
  roles :=
    [{ id := 7, price := 100, description := "Inteira" },
      { id := 8, price := 50, description := "Meia" }]

def vazio : Database where
  catalogue :=
    { churches := []
      configs := []
      users := [pessoa 1, pessoa 2, pessoa 3]
      events := [evento]
      groups := [grupo]
      discounts := []
      products := []
      roles_nodup := by decide
      variants_nodup := by simp }
  eventOnUsers := []
  waitlist := []
  payments := []
  nextId := 100
  payments_keyed := Keyed.nil
  items_keyed := Keyed.nil

def quando (_ : Instant) : String := ""

def inscrever (userId role : Id) : AcaoDeInscricao :=
  .registerUserInEvent ⟨userId, 5, [role], false, false, 0⟩

end UmaVaga

theorem comChaves_vazio : UmaVaga.vazio.ComChaves where
  grupos := by decide
  chaves := by decide
  doEvento := by simp [Database.inscricoes, UmaVaga.vazio]

theorem lotacao_vazio : UmaVaga.vazio.Lotacao where
  capacidade := by simp [Database.noGrupo, Database.inscricoes, UmaVaga.vazio]
  umPorGrupo := by simp [Database.inscricoes, UmaVaga.vazio]
  umPagamento := by simp [Database.inscricoes, UmaVaga.vazio]
  comInscricao := by simp [UmaVaga.vazio]

/-- The first takes the place, the second waits and then takes it from the first. -/
theorem lotacao_run_umaVaga :
    Always (Database.inscrevendo UmaVaga.quando) Database.Lotacao UmaVaga.vazio
      [UmaVaga.inscrever 1 7, UmaVaga.inscrever 2 8,
        .movedUserFromWaitlistToEvent (some 2) (some 1) 5 8 0] :=
  lotacao_run UmaVaga.quando comChaves_vazio lotacao_vazio _

end IccvBackend
