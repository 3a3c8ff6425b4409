/-
Module: IccvBackend.Event.Registration
Purpose: `event/event.service.ts`: registering a person in the groups of an event, editing the
  registration and removing it.
Trusted boundary: human-reviewed spec
Main exports: registerUserInEventTx, registerUserInEvent, updateUserFromEvent,
  removeUserFromEventTx
-/
import IccvBackend.Lib.Fallible
import IccvBackend.Prisma.Database

namespace IccvBackend

open Lib

/-!
Every operation returns the database its transaction commits, or the exception it throws; an
exception rolls the transaction back.

The access guards that run before a registration made by the person (`assertEventIsVisible`,
`assertPodeInscrever`) and the confirmation e-mail write nothing and are left out.  What the guard
of the terms decides arrives as `aceitouTermo`.
-/

/-! ### Ages and windows -/

/-- `calculateAge`. -/
def calculateAge (birthday atDate : CalendarDay) : Int :=
  let age := atDate.year - birthday.year
  let beforeBirthdayThisYear :=
    atDate.month < birthday.month ||
      (atDate.month == birthday.month && atDate.day < birthday.day)
  if beforeBirthdayThisYear then age - 1 else age

/-- `idadeDoTermo`. -/
def idadeDoTermo (event : Event) : Int := if event.minorAgeLimitIs18 then 18 else 16

/-- Whether a person needs the signed term: the age on the first day of the event decides. -/
def minorApprovalStatusFor (user : User) (event : Event) : MinorApprovalStatus :=
  if calculateAge user.birthday event.startDate < idadeDoTermo event then .pending
  else .notRequired

/-- `grupoFechado`: why the group takes no registration now.  `quando` prints an instant. -/
def grupoFechado (quando : Instant → String) (grupo : GroupRoles) (agora : Instant)
    (fimDoEvento : Option Instant) : Option String :=
  let encerramento := grupo.closesAt.or fimDoEvento
  if !grupo.active then
    some ("O grupo \"" ++ grupo.name ++ "\" não está recebendo inscrições")
  else
    match grupo.opensAt.filter fun opensAt => agora < opensAt with
    | some opensAt =>
        some ("As inscrições do grupo \"" ++ grupo.name ++ "\" abrem em " ++ quando opensAt)
    | none =>
        (encerramento.filter fun encerramento => encerramento ≤ agora).map fun encerramento =>
          "As inscrições do grupo \"" ++ grupo.name ++ "\" encerraram em " ++ quando encerramento

/-! ### Writes on registrations -/

namespace Database

/-- A registration as `upsert` creates it. -/
def newRegistration (userId eventId : Id) (minorApprovalStatus : MinorApprovalStatus)
    (aceite : Option Instant) : EventOnUsers where
  userId := userId
  eventId := eventId
  minorApprovalStatus := minorApprovalStatus
  signedTermUrl := none
  minorApprovalReviewedById := none
  minorApprovalReviewedAt := none
  minorApprovalRejectionReason := none
  termsAcceptedAt := aceite
  certificateCode := none
  rolesRegistration := []

/-- Rewrite the registration of a person in an event. -/
def modifyRegistration (db : Database) (userId eventId : Id) (f : EventOnUsers → EventOnUsers) :
    Database :=
  { db with
    eventOnUsers := db.eventOnUsers.map fun row =>
      if row.userId = userId && row.eventId = eventId then f row else row }

/-- `eventOnUsers.upsert`: an existing row only takes a new acceptance. -/
def upsertRegistration (db : Database) (userId eventId : Id)
    (minorApprovalStatus : MinorApprovalStatus) (aceite : Option Instant) : Database :=
  match db.registration? userId eventId with
  | some _ =>
      db.modifyRegistration userId eventId fun row =>
        { row with termsAcceptedAt := aceite.or row.termsAcceptedAt }
  | none =>
      { db with
        eventOnUsers :=
          db.eventOnUsers ++ [newRegistration userId eventId minorApprovalStatus aceite] }

/-- `eventOnUsersRolesRegistration.create`. -/
def createRoleRegistration (db : Database) (userId eventId roleRegistrationId : Id) : Database :=
  db.modifyRegistration userId eventId fun row =>
    { row with
      rolesRegistration :=
        row.rolesRegistration ++
          [{ roleRegistrationId := roleRegistrationId, discountId := none }] }

/-- `waitlist.create`. -/
def createWaitlist (db : Database) (userId eventId roleRegistrationId : Id) : Database :=
  { db with
    waitlist := db.waitlist ++
      [{ userId := userId, eventId := eventId, roleRegistrationId := roleRegistrationId }] }

/-- The role registrations of a person in an event. -/
def rolesOf (db : Database) (userId eventId : Id) : List EventOnUsersRolesRegistration :=
  ((db.registration? userId eventId).map EventOnUsers.rolesRegistration).getD []

/-- The payment of a role registration of this person in this event. -/
def ticketOf (userId eventId : Id) (roles : List EventOnUsersRolesRegistration) (p : Payment) :
    Bool :=
  p.userId = some userId && p.eventId = some eventId &&
    roles.any fun row => p.roleRegistrationId = some row.roleRegistrationId

/-- `eventOnUsers.deleteMany`.  Both relations of the schema cascade: the role registrations go
with the registration, and their payments, items and checkouts with them. -/
def deleteRegistration (db : Database) (userId eventId : Id) : Database :=
  { db.deletePayments (ticketOf userId eventId (db.rolesOf userId eventId)) with
    eventOnUsers :=
      db.eventOnUsers.filter fun row => !(row.userId = userId && row.eventId = eventId) }

/-- How many role registrations of the event are in the group. -/
def countInGroup (db : Database) (eventId groupId : Id) : Nat :=
  ((db.eventOnUsers.filter fun row => row.eventId = eventId).map fun row =>
    row.rolesRegistration.countP fun held =>
      db.catalogue.roles.any fun pair =>
        pair.2.id = held.roleRegistrationId && pair.1.id = groupId).sum

end Database

/-! ### Registering -/

inductive ResultType where
  | waitlist
  | registered
deriving Repr, DecidableEq

/-- What a caller of `_registerUserInEventTx` passes, with the clock. -/
structure RegistrationRequest where
  userId : Id
  eventId : Id
  registrationRoleIds : List Id
  aceitouTermo : Bool
  respeitarJanela : Bool
  agora : Instant
deriving Repr, DecidableEq

/-- The payment of a new ticket: it is born paid when it costs nothing. -/
def ticketPayment (request : RegistrationRequest) (role : RolesRegistration) :
    Database.PaymentCreate where
  userId := request.userId
  eventId := request.eventId
  roleRegistrationId := some role.id
  amount := role.price
  status := if role.price > 0 then .waiting else .paid
  method := if role.price > 0 then .other else .cash
  receivedFrom := .pending
  createdAt := request.agora

/-- The three writes of a registered role: the registration of the person, the role registration
and its payment. -/
def Database.inscrever (db : Database) (request : RegistrationRequest)
    (minorApprovalStatus : MinorApprovalStatus) (role : RolesRegistration) : Database :=
  let aceite := if request.aceitouTermo then some request.agora else none
  ((db.upsertRegistration request.userId request.eventId minorApprovalStatus
      aceite).createRoleRegistration request.userId request.eventId role.id).createPayment
    (ticketPayment request role)

/-- The group of the role has no vacancy. -/
def lotado (count : Id → Nat) (role : GroupRoles × RolesRegistration) : Bool :=
  role.1.capacity.any fun capacity => (count role.1.id : Int) ≥ capacity

/-- One turn of the loop: a full group sends to the waiting list, else the role is registered and
its payment is born. -/
def registerRole (request : RegistrationRequest) (minorApprovalStatus : MinorApprovalStatus)
    (count : Id → Nat) (state : Database × List (Id × ResultType))
    (role : GroupRoles × RolesRegistration) : Database × List (Id × ResultType) :=
  if lotado count role then
    (state.1.createWaitlist request.userId request.eventId role.2.id,
      state.2 ++ [(role.2.id, .waitlist)])
  else
    (state.1.inscrever request minorApprovalStatus role.2, state.2 ++ [(role.2.id, .registered)])

/-- The roles a request names, of its event, each with its group. -/
def RegistrationRequest.roles (request : RegistrationRequest) (cat : Catalogue) :
    List (GroupRoles × RolesRegistration) :=
  cat.roles.filter fun pair =>
    pair.2.id ∈ request.registrationRoleIds && pair.1.eventId = request.eventId

/-- The groups of the roles a person already has in the event. -/
def Database.existingGroupIds (db : Database) (userId eventId : Id) : List Id :=
  (db.catalogue.roles.filter fun pair =>
    (db.rolesOf userId eventId).any fun row => row.roleRegistrationId = pair.2.id).map
      fun pair => pair.1.id

/-- `_registerUserInEventTx`. -/
def registerUserInEventTx (quando : Instant → String) (db : Database)
    (request : RegistrationRequest) : Except Failure (Database × List (Id × ResultType)) := do
  let user ← orFail (db.catalogue.user? request.userId) (notFound "Usuario não encontrado")
  let event ← orFail (db.catalogue.event? request.eventId) (notFound "Evento não encontrado")
  failIf (request.respeitarJanela ∧ user.blocked)
    (unauthorized "Sua conta está bloqueada. Fale com a organização.")
  let roles := request.roles db.catalogue
  failIf (roles.length ≠ request.registrationRoleIds.length) (badRequest "Role(s) inválido(s)")
  failIf (¬ (roles.map fun pair => pair.1.id).Nodup)
    (badRequest "As regras devem pertencer a grupos diferentes")
  match roles.findSome? fun pair =>
      (grupoFechado quando pair.1 request.agora event.endDate).filter fun _ =>
        request.respeitarJanela with
  | some motivo => throw (badRequest motivo)
  | none =>
      failIf (request.registrationRoleIds.any fun id =>
          (db.rolesOf request.userId request.eventId).any fun row => row.roleRegistrationId = id)
        (badRequest "Usuário já registrado em grupos no evento")
      failIf (roles.any fun pair =>
          pair.1.id ∈ db.existingGroupIds request.userId request.eventId)
        (badRequest "Usuário já registrado em uma regra do mesmo grupo neste evento")
      failIf (db.waitlist.any fun row =>
          row.userId = request.userId && row.eventId = request.eventId &&
            row.roleRegistrationId ∈ request.registrationRoleIds)
        (badRequest "Usuário já está na lista de espera para algumas regras de grupo no evento")
      pure (roles.foldl
        (registerRole request (minorApprovalStatusFor user event)
          (db.countInGroup request.eventId))
        (db, []))

/-- `registerUserInEvent`, up to its transaction. -/
def registerUserInEvent (quando : Instant → String) (db : Database)
    (request : RegistrationRequest) : Except Failure (Database × List (Id × ResultType)) := do
  failIf (request.registrationRoleIds = [])
    (badRequest "Nenhuma regra de inscrição foi informada")
  failIf (¬ request.registrationRoleIds.Nodup) (badRequest "Role(s) inválido(s)")
  registerUserInEventTx quando db request

/-! ### Editing and removing -/

/-- `updateUserFromEvent`: delete everything and register again, in one transaction. -/
def updateUserFromEvent (quando : Instant → String) (db : Database) (userId eventId : Id)
    (registrationRoleId : List Id) (agora : Instant) :
    Except Failure (Database × List (Id × ResultType)) := do
  let _ ← orFail (db.registration? userId eventId)
    (notFound "Usuario não está registrado no evento")
  let registration ← registerUserInEvent quando (db.deleteRegistration userId eventId)
    { userId := userId
      eventId := eventId
      registrationRoleIds := registrationRoleId
      aceitouTermo := false
      respeitarJanela := false
      agora := agora }
  failIf (registration.2.any fun result => result.2 = .waitlist)
    (badRequest "Não há vagas disponíveis no evento para o grupo selecionado")
  pure registration

/-- The reads of `removeUserFromEvent`, before its transaction. -/
def removeUserFromEventCheck (db : Database) (idUser idEvent roleRegistrationId : Id) :
    Except Failure Unit := do
  let _ ← orFail (db.catalogue.user? idUser) (notFound "User does not exist!")
  let _ ← orFail (db.catalogue.event? idEvent) (notFound "Event does not exist!")
  failIf (¬ (db.rolesOf idUser idEvent).any fun row => row.roleRegistrationId = roleRegistrationId)
    (notFound "Registration does not exist!")

/-- The transaction of `removeUserFromEvent`: ticket payments go with the registration, the loose
purchases of the shop stay. -/
def removeUserFromEventTx (db : Database) (idUser idEvent : Id) : Database :=
  { db.deletePayments fun p =>
      p.userId = some idUser && p.eventId = some idEvent && p.roleRegistrationId.isSome with
    waitlist := db.waitlist.filter fun row => !(row.userId = idUser && row.eventId = idEvent)
    eventOnUsers :=
      db.eventOnUsers.filter fun row => !(row.userId = idUser && row.eventId = idEvent) }

/-! ### The writes of one role -/

section Inscrever

variable (db : Database) (request : RegistrationRequest) (minor : MinorApprovalStatus)
  (role : RolesRegistration)

theorem upsertRegistration_payments (userId eventId : Id) (aceite : Option Instant) :
    (db.upsertRegistration userId eventId minor aceite).payments = db.payments := by
  unfold Database.upsertRegistration; split <;> rfl

theorem upsertRegistration_catalogue (userId eventId : Id) (aceite : Option Instant) :
    (db.upsertRegistration userId eventId minor aceite).catalogue = db.catalogue := by
  unfold Database.upsertRegistration; split <;> rfl

theorem upsertRegistration_nextId (userId eventId : Id) (aceite : Option Instant) :
    (db.upsertRegistration userId eventId minor aceite).nextId = db.nextId := by
  unfold Database.upsertRegistration; split <;> rfl

@[simp] theorem inscrever_payments : (db.inscrever request minor role).payments =
    db.payments ++ [(ticketPayment request role).row db.nextId] := by
  simp [Database.inscrever, Database.createRoleRegistration, Database.modifyRegistration,
    upsertRegistration_payments, upsertRegistration_nextId]

@[simp] theorem inscrever_catalogue :
    (db.inscrever request minor role).catalogue = db.catalogue := by
  simp [Database.inscrever, Database.createRoleRegistration, Database.modifyRegistration,
    upsertRegistration_catalogue]

@[simp] theorem inscrever_nextId : (db.inscrever request minor role).nextId = db.nextId + 1 := by
  simp [Database.inscrever, Database.createRoleRegistration, Database.modifyRegistration,
    Database.createPayment, upsertRegistration_nextId]

end Inscrever

/-- The registrations of a person after a write that keeps the keys. -/
theorem registration?_modifyRegistration (db : Database) (userId eventId : Id)
    {f : EventOnUsers → EventOnUsers}
    (same_keys : ∀ row, (f row).userId = row.userId ∧ (f row).eventId = row.eventId) :
    (db.modifyRegistration userId eventId f).registration? userId eventId =
      (db.registration? userId eventId).map f := by
  unfold Database.modifyRegistration Database.registration?
  dsimp only
  induction db.eventOnUsers with
  | nil => rfl
  | cons row rows ih =>
      by_cases here : row.userId = userId ∧ row.eventId = eventId
      · obtain ⟨rfl, rfl⟩ := here
        simp [same_keys row]
      · have other : (decide (row.userId = userId) && decide (row.eventId = eventId)) = false := by
          simpa using here
        simp only [List.map_cons, other, Bool.false_eq_true, if_false, List.find?_cons]
        exact ih

/-- The registration of the person after a role is written: the one there was, or a new one, with
the role at the end. -/
theorem registration?_inscrever (db : Database) (request : RegistrationRequest)
    (minor : MinorApprovalStatus) (role : RolesRegistration) :
    ∃ row, (db.inscrever request minor role).registration? request.userId request.eventId =
        some { row with rolesRegistration := row.rolesRegistration ++ [⟨role.id, none⟩] } ∧
      (db.registration? request.userId request.eventId = none →
        row = Database.newRegistration request.userId request.eventId minor
          (if request.aceitouTermo then some request.agora else none)) ∧
      (request.aceitouTermo = false →
        ∀ old, db.registration? request.userId request.eventId = some old → row = old) := by
  have upserted : ∃ row, (db.upsertRegistration request.userId request.eventId minor
        (if request.aceitouTermo then some request.agora else none)).registration?
          request.userId request.eventId = some row ∧
      (db.registration? request.userId request.eventId = none →
        row = Database.newRegistration request.userId request.eventId minor
          (if request.aceitouTermo then some request.agora else none)) ∧
      (request.aceitouTermo = false →
        ∀ old, db.registration? request.userId request.eventId = some old → row = old) := by
    unfold Database.upsertRegistration
    cases found : db.registration? request.userId request.eventId with
    | some old =>
        refine ⟨{ old with
          termsAcceptedAt := (if request.aceitouTermo then some request.agora else none).or
            old.termsAcceptedAt }, ?_, by simp, ?_⟩
        · dsimp only
          rw [registration?_modifyRegistration, found, Option.map_some]
          exact fun _ => ⟨rfl, rfl⟩
        · intro no_terms old' same
          obtain rfl := Option.some.inj same
          simp [no_terms]
    | none =>
        refine ⟨_, ?_, fun _ => rfl, fun _ _ same => nomatch same⟩
        unfold Database.registration? at found ⊢
        rw [List.find?_append, found]
        simp [Database.newRegistration]
  obtain ⟨row, found, fresh, kept⟩ := upserted
  refine ⟨row, ?_, fresh, kept⟩
  have created := registration?_modifyRegistration (db.upsertRegistration request.userId
    request.eventId minor (if request.aceitouTermo then some request.agora else none))
    request.userId request.eventId
    (f := fun row => { row with
      rolesRegistration := row.rolesRegistration ++ [⟨role.id, none⟩] }) fun _ => ⟨rfl, rfl⟩
  rw [found] at created
  exact created

/-! ### What a success says -/

/-- A registration that went through: every check passed, and the loop ran. -/
structure Registrou (db : Database) (request : RegistrationRequest) (user : User) (event : Event)
    (result : Database × List (Id × ResultType)) : Prop where
  named : request.registrationRoleIds ≠ []
  found_user : db.catalogue.user? request.userId = some user
  found_event : db.catalogue.event? request.eventId = some event
  roles_length : (request.roles db.catalogue).length = request.registrationRoleIds.length
  groups_nodup : ((request.roles db.catalogue).map fun pair => pair.1.id).Nodup
  fresh : ∀ id ∈ request.registrationRoleIds,
    ∀ row ∈ db.rolesOf request.userId request.eventId, row.roleRegistrationId ≠ id
  other_groups : ∀ pair ∈ request.roles db.catalogue,
    pair.1.id ∉ db.existingGroupIds request.userId request.eventId
  not_waiting : ∀ row ∈ db.waitlist, row.userId = request.userId → row.eventId = request.eventId →
    row.roleRegistrationId ∉ request.registrationRoleIds
  result : result = (request.roles db.catalogue).foldl
    (registerRole request (minorApprovalStatusFor user event) (db.countInGroup request.eventId))
    (db, [])

theorem registerUserInEventTx_ok {quando : Instant → String} {db : Database}
    {request : RegistrationRequest} {result : Database × List (Id × ResultType)}
    (named : request.registrationRoleIds ≠ [])
    (ok : registerUserInEventTx quando db request = .ok result) :
    ∃ user event, Registrou db request user event result := by
  unfold registerUserInEventTx at ok
  simp only [bind_eq_ok_iff, orFail_eq_ok_iff, failIf_eq_ok_iff] at ok
  obtain ⟨user, found_user, event, found_event, _, _, _, length, _, nodup, rest⟩ := ok
  split at rest
  · exact absurd rest throw_ne_ok
  · obtain ⟨_, fresh, _, groups, _, waiting, done⟩ := by
      simpa only [bind_eq_ok_iff, failIf_eq_ok_iff] using rest
    refine ⟨user, event, named, found_user, found_event, not_not.mp length, not_not.mp nodup, ?_,
      ?_, ?_, ?_⟩
    · intro id mem row row_mem same
      exact fresh (List.any_eq_true.mpr ⟨id, mem, List.any_eq_true.mpr ⟨row, row_mem, by simpa⟩⟩)
    · intro pair mem there
      exact groups (List.any_eq_true.mpr ⟨pair, mem, decide_eq_true there⟩)
    · intro row mem same_user same_event asked
      exact waiting (List.any_eq_true.mpr ⟨row, mem, by simp [same_user, same_event, asked]⟩)
    · exact (pure_eq_ok_iff.mp done).symm

theorem registerUserInEvent_ok {quando : Instant → String} {db : Database}
    {request : RegistrationRequest} {result : Database × List (Id × ResultType)}
    (ok : registerUserInEvent quando db request = .ok result) :
    ∃ user event, Registrou db request user event result := by
  unfold registerUserInEvent at ok
  simp only [bind_eq_ok_iff, failIf_eq_ok_iff] at ok
  obtain ⟨_, named, _, _, tx⟩ := ok
  exact registerUserInEventTx_ok named tx

section Loop

variable (request : RegistrationRequest) (minor : MinorApprovalStatus) (count : Id → Nat)

theorem registerRole_catalogue (state : Database × List (Id × ResultType))
    (role : GroupRoles × RolesRegistration) :
    (registerRole request minor count state role).1.catalogue = state.1.catalogue := by
  unfold registerRole
  split
  · rfl
  · exact inscrever_catalogue _ _ _ _

/-- The loop adds tickets at the end of the payments, one for each role with a vacancy. -/
theorem foldl_registerRole_payments (roles : List (GroupRoles × RolesRegistration)) :
    ∀ state : Database × List (Id × ResultType),
      (roles.foldl (registerRole request minor count) state).1.catalogue = state.1.catalogue ∧
      ∃ novos, (roles.foldl (registerRole request minor count) state).1.payments =
          state.1.payments ++ novos ∧
        List.Forall₂ (fun (p : Payment) role => ∃ id ≥ state.1.nextId,
            p = (ticketPayment request role.2).row id)
          novos (roles.filter fun role => !lotado count role) := by
  induction roles with
  | nil => exact fun state => ⟨rfl, [], by simp, .nil⟩
  | cons role roles ih =>
      intro state
      obtain ⟨catalogue, novos, payments, tickets⟩ :=
        ih (registerRole request minor count state role)
      refine ⟨catalogue.trans (registerRole_catalogue _ _ _ state role), ?_⟩
      by_cases full : lotado count role
      · simp only [List.foldl_cons, registerRole, full, if_true] at payments tickets ⊢
        rw [List.filter_cons_of_neg (by simp [full])]
        exact ⟨novos, payments, tickets⟩
      · simp only [List.foldl_cons, registerRole, full, Bool.false_eq_true, if_false,
          inscrever_nextId, inscrever_payments] at payments tickets ⊢
        refine ⟨(ticketPayment request role.2).row state.1.nextId :: novos, by simp [payments], ?_⟩
        simp only [full, Bool.not_false, List.filter_cons_of_pos]
        refine .cons ⟨_, le_rfl, rfl⟩ (tickets.imp ?_)
        rintro p other ⟨id, later, same⟩
        exact ⟨id, Nat.le_of_succ_le later, same⟩

/-- What the loop reports of each role. -/
theorem foldl_registerRole_results (roles : List (GroupRoles × RolesRegistration)) :
    ∀ state : Database × List (Id × ResultType),
      (roles.foldl (registerRole request minor count) state).2 =
        state.2 ++ roles.map fun role =>
          (role.2.id, if lotado count role then .waitlist else .registered) := by
  induction roles with
  | nil => simp
  | cons role roles ih =>
      intro state
      rw [List.foldl_cons, ih]
      by_cases full : lotado count role <;> simp [registerRole, full]

/-- When no group is full, every role is hung on the registration of the person: a new one when
there was none. -/
theorem foldl_registerRole_registration (no_terms : request.aceitouTermo = false)
    (roles : List (GroupRoles × RolesRegistration)) :
    ∀ state : Database × List (Id × ResultType), (∀ role ∈ roles, lotado count role = false) →
      ∀ row, state.1.registration? request.userId request.eventId = some row →
        (roles.foldl (registerRole request minor count) state).1.registration? request.userId
            request.eventId =
          some { row with
            rolesRegistration := row.rolesRegistration ++ roles.map fun role =>
              ⟨role.2.id, none⟩ } := by
  induction roles with
  | nil => simp
  | cons role roles ih =>
      intro state vacancy row found
      have open_here := vacancy role List.mem_cons_self
      obtain ⟨row', found', _, kept⟩ := registration?_inscrever state.1 request minor role.2
      obtain rfl := kept no_terms row found
      have rest := ih (registerRole request minor count state role)
        (fun role mem => vacancy role (List.mem_cons_of_mem _ mem))
      rw [List.foldl_cons]
      simp only [registerRole, open_here, Bool.false_eq_true, if_false] at rest ⊢
      rw [rest _ found']
      simp

end Loop

theorem Registrou.catalogue {db : Database} {request : RegistrationRequest} {user : User}
    {event : Event} {result : Database × List (Id × ResultType)}
    (registrou : Registrou db request user event result) :
    result.1.catalogue = db.catalogue := by
  rw [registrou.result]
  exact (foldl_registerRole_payments _ _ _ _ _).1

/-- The roles of a request that get a ticket: those of groups with a vacancy. -/
def RegistrationRequest.comVaga (request : RegistrationRequest) (db : Database) :
    List (GroupRoles × RolesRegistration) :=
  (request.roles db.catalogue).filter fun role => !lotado (db.countInGroup request.eventId) role

/-- A registration adds one ticket for each role with a vacancy, with new ids. -/
theorem Registrou.payments {db : Database} {request : RegistrationRequest} {user : User}
    {event : Event} {result : Database × List (Id × ResultType)}
    (registrou : Registrou db request user event result) :
    ∃ novos, result.1.payments = db.payments ++ novos ∧
      List.Forall₂ (fun (p : Payment) role => ∃ id ≥ db.nextId,
        p = (ticketPayment request role.2).row id) novos (request.comVaga db) := by
  rw [registrou.result]
  exact (foldl_registerRole_payments _ _ _ _ _).2

theorem Registrou.new_ticket {db : Database} {request : RegistrationRequest} {user : User}
    {event : Event} {result : Database × List (Id × ResultType)}
    (registrou : Registrou db request user event result) {q : Payment}
    (mem : q ∈ result.1.payments) :
    q ∈ db.payments ∨ ∃ role ∈ request.comVaga db, ∃ id ≥ db.nextId,
      q = (ticketPayment request role.2).row id := by
  obtain ⟨novos, payments, tickets⟩ := registrou.payments
  rw [payments, List.mem_append] at mem
  refine mem.imp id fun new => ?_
  obtain ⟨i, inside, rfl⟩ := List.getElem_of_mem new
  have inside' := tickets.length_eq ▸ inside
  exact ⟨_, List.getElem_mem inside', tickets.get inside inside'⟩

/-- An edit that went through registered after the deletion, and nothing went to the waiting
list. -/
theorem updateUserFromEvent_ok {quando : Instant → String} {db : Database} {userId eventId : Id}
    {roles : List Id} {agora : Instant} {result : Database × List (Id × ResultType)}
    (ok : updateUserFromEvent quando db userId eventId roles agora = .ok result) :
    (∃ registration, db.registration? userId eventId = some registration) ∧
      (∃ user event, Registrou (db.deleteRegistration userId eventId)
        ⟨userId, eventId, roles, false, false, agora⟩ user event result) ∧
      ∀ r ∈ result.2, r.2 = .registered := by
  unfold updateUserFromEvent at ok
  simp only [bind_eq_ok_iff, orFail_eq_ok_iff, failIf_eq_ok_iff, pure_eq_ok_iff] at ok
  obtain ⟨registration, found, result', registered, _, no_waitlist, rfl⟩ := ok
  refine ⟨⟨registration, found⟩, registerUserInEvent_ok registered, fun r mem => ?_⟩
  cases type : r.2 with
  | registered => rfl
  | waitlist => exact absurd (List.any_eq_true.mpr ⟨r, mem, by simp [type]⟩) no_waitlist

end IccvBackend
