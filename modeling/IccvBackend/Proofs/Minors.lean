/-
Module: IccvBackend.Proofs.Minors
Purpose: The status of the term follows the age a person had, at the first day the event had, when
  the status was last decided.
Trusted boundary: none
Main exports: Database.MenoresComTermo, Decisoes, Database.Decidido, menores_run,
  not_menoresComTermo_outraData
-/
import IccvBackend.Event.Minors
import IccvBackend.Proofs.Seats

namespace IccvBackend

open Lib

/-! ### The law and the decisions -/

/-- The status of every registration is that of the age of the person on the first day of the event,
both as they are now. -/
def Database.MenoresComTermo (db : Database) : Prop :=
  ∀ row ∈ db.eventOnUsers, ∀ user event,
    db.catalogue.user? row.userId = some user → db.catalogue.event? row.eventId = some event →
      (row.minorApprovalStatus ≠ .notRequired ↔
        calculateAge user.birthday event.startDate < idadeDoTermo event)

/-- What a status was decided with. -/
structure Decisao where
  birthday : CalendarDay
  startDate : CalendarDay
deriving DecidableEq

/-- The last decision of each registration, by its key. -/
abbrev Decisoes := Id × Id → Option Decisao

/-- What a decision made now would use. -/
def Database.decisao (db : Database) (chave : Id × Id) : Option Decisao := do
  let user ← db.catalogue.user? chave.1
  let event ← db.catalogue.event? chave.2
  pure ⟨user.birthday, event.startDate⟩

/-- The rows an operation starts to register from: an edit deletes the registration first, and a
move takes the person out of the group. -/
def AcaoDeInscricao.preparo (db : Database) : AcaoDeInscricao → Database
  | .updateUserFromEvent userId eventId _ _ => db.deleteRegistration userId eventId
  | .movedUserFromWaitlistToEvent (some userId) (some userRemovedId) eventId roleId _ =>
      match db.waitlistEntry? userId eventId roleId,
          db.catalogue.roles.find? fun pair => pair.2.id = roleId with
      | some entry, some pair => db.cederVaga entry userRemovedId pair.1.id
      | _, _ => db
  | _ => db

/-- The operation decides the status of this registration: it creates its row, or saves its event
with another limit. -/
def AcaoDoTermo.decidiu (amb : Edicoes.Ambiente) (db depois : Database) (chave : Id × Id) :
    AcaoDoTermo → Bool
  | .inscricao acao =>
      (acao.executar amb.quando db).isOk &&
        ((acao.preparo db).registration? chave.1 chave.2).isNone &&
        (depois.registration? chave.1 chave.2).isSome
  | .editarEvento id _ =>
      chave.2 = id &&
        (db.catalogue.event? id).map idadeDoTermo ≠ (depois.catalogue.event? id).map idadeDoTermo
  | _ => false

def Decisoes.anotar (amb : Edicoes.Ambiente) (decisoes : Decisoes) (db : Database)
    (acao : AcaoDoTermo) (depois : Database) : Decisoes := fun chave =>
  if acao.decidiu amb db depois chave then depois.decisao chave else decisoes chave

/-- The status of every registration is that of its last decision, with the limit of now. -/
def Database.Decidido (db : Database) (decisoes : Decisoes) : Prop :=
  ∀ row ∈ db.eventOnUsers, ∀ user event,
    db.catalogue.user? row.userId = some user → db.catalogue.event? row.eventId = some event →
      ∃ decisao, decisoes row.chave = some decisao ∧
        (row.minorApprovalStatus ≠ .notRequired ↔
          calculateAge decisao.birthday decisao.startDate < idadeDoTermo event)

/-- The edit leaves the person on the side of the last decision: it keeps the limit of the event, or
it is another event, or the age on the new first day is on that side of the new limit too. -/
def MesmoLado (textos : Textos) (db : Database) (decisoes : Decisoes) (row : EventOnUsers) :
    AcaoDoTermo → Prop
  | .editarEvento id dados =>
      row.eventId = id → ∀ user event, db.catalogue.user? row.userId = some user →
        db.catalogue.event? id = some event →
          idadeDoTermo (dados.gravar (textos.trim dados.name) event) = idadeDoTermo event ∨
          ∃ decisao, decisoes row.chave = some decisao ∧
            (calculateAge decisao.birthday decisao.startDate < idadeDoTermo event ↔
              calculateAge user.birthday dados.startDate <
                idadeDoTermo (dados.gravar (textos.trim dados.name) event))
  | .editarNascimento _ _ => True
  | _ => False

/-- Who stays on her side keeps her registration as it was, status and review included. -/
def FicaComoEsta (amb : Edicoes.Ambiente) (s : Database × Decisoes) (acao : AcaoDoTermo) : Prop :=
  ∀ row ∈ s.1.eventOnUsers, MesmoLado amb.textos s.1 s.2 row acao →
    row ∈ (s.1.comTermos amb acao).eventOnUsers

/-! ### Registrations -/

section Registrations

variable {db depois : Database} {request : RegistrationRequest} {user : User} {event : Event}
  {result : Database × List (Id × ResultType)}

/-- The part of a registration that decides: its key and its status. -/
def EventOnUsers.analise (row : EventOnUsers) : (Id × Id) × MinorApprovalStatus :=
  (row.chave, row.minorApprovalStatus)

/-- Every registration of the second database has the key and the status of one of the first. -/
def SoAntigas (antes depois : List EventOnUsers) : Prop :=
  ∀ row ∈ depois, ∃ old ∈ antes, old.analise = row.analise

theorem SoAntigas.refl (rows : List EventOnUsers) : SoAntigas rows rows :=
  fun row mem => ⟨row, mem, rfl⟩

theorem SoAntigas.trans {a b c : List EventOnUsers} (ab : SoAntigas a b) (bc : SoAntigas b c) :
    SoAntigas a c := by
  intro row mem
  obtain ⟨middle, mem_middle, same⟩ := bc row mem
  obtain ⟨old, mem_old, same_old⟩ := ab middle mem_middle
  exact ⟨old, mem_old, same_old.trans same⟩

theorem soAntigas_filter (rows : List EventOnUsers) (p : EventOnUsers → Bool) :
    SoAntigas rows (rows.filter p) :=
  fun row mem => ⟨row, List.mem_of_mem_filter mem, rfl⟩

theorem soAntigas_map (rows : List EventOnUsers) {f : EventOnUsers → EventOnUsers}
    (same : ∀ row, (f row).analise = row.analise) : SoAntigas rows (rows.map f) := by
  intro row mem
  obtain ⟨old, mem_old, rfl⟩ := List.mem_map.mp mem
  exact ⟨old, mem_old, (same old).symm⟩

theorem registration?_eq_none {userId eventId : Id} :
    db.registration? userId eventId = none ↔
      ∀ row ∈ db.eventOnUsers, row.chave ≠ (userId, eventId) := by
  simp [Database.registration?, EventOnUsers.chave, Prod.ext_iff]

theorem soAntigas_preparo (acao : AcaoDeInscricao) :
    SoAntigas db.eventOnUsers (acao.preparo db).eventOnUsers := by
  unfold AcaoDeInscricao.preparo
  split
  · exact soAntigas_filter _ _
  · split
    · refine .trans (soAntigas_map _ fun row => ?_) (soAntigas_filter _ _)
      split <;> rfl
    · exact .refl _
  · exact .refl _

/-- A row that a registration leaves: an old one, or the one it created. -/
def Nova (db : Database) (request : RegistrationRequest) (minor : MinorApprovalStatus)
    (row : EventOnUsers) : Prop :=
  db.registration? request.userId request.eventId = none ∧
    row.analise = ((request.userId, request.eventId), minor)

theorem inscrever_analise (request : RegistrationRequest) (minor : MinorApprovalStatus)
    (role : RolesRegistration) {row : EventOnUsers}
    (mem : row ∈ (db.inscrever request minor role).eventOnUsers) :
    (∃ old ∈ db.eventOnUsers, old.analise = row.analise) ∨ Nova db request minor row := by
  have created : SoAntigas (db.upsertRegistration request.userId request.eventId minor
      (if request.aceitouTermo then some request.agora else none)).eventOnUsers
      (db.inscrever request minor role).eventOnUsers :=
    soAntigas_map _ fun row => by split <;> rfl
  obtain ⟨upserted, mem_upserted, same⟩ := created row mem
  unfold Database.upsertRegistration at mem_upserted
  split at mem_upserted
  · obtain ⟨old, mem_old, rfl⟩ := List.mem_map.mp mem_upserted
    refine .inl ⟨old, mem_old, .trans ?_ same⟩
    split <;> rfl
  · next none_found =>
      rcases List.mem_append.mp mem_upserted with old | new
      · exact .inl ⟨upserted, old, same⟩
      · obtain rfl := List.mem_singleton.mp new
        exact .inr ⟨none_found, same.symm⟩

/-- No write of a registration removes a row. -/
theorem inscrever_chaves (request : RegistrationRequest) (minor : MinorApprovalStatus)
    (role : RolesRegistration) {userId eventId : Id}
    (none_found : (db.inscrever request minor role).registration? userId eventId = none) :
    db.registration? userId eventId = none := by
  rw [registration?_eq_none] at none_found ⊢
  intro row mem same
  have upserted : ∃ new ∈ (db.upsertRegistration request.userId request.eventId minor
      (if request.aceitouTermo then some request.agora else none)).eventOnUsers,
      new.chave = row.chave := by
    unfold Database.upsertRegistration
    split
    · refine ⟨_, List.mem_map_of_mem mem, ?_⟩
      split <;> rfl
    · exact ⟨row, List.mem_append_left _ mem, rfl⟩
  obtain ⟨new, mem_new, same_new⟩ := upserted
  refine none_found _ (List.mem_map_of_mem mem_new) ?_
  rw [← same, ← same_new]
  split <;> rfl

theorem foldl_registerRole_analise (minor : MinorApprovalStatus) (count : Id → Nat)
    (roles : List (GroupRoles × RolesRegistration)) :
    ∀ state : Database × List (Id × ResultType),
      ∀ row ∈ (roles.foldl (registerRole request minor count) state).1.eventOnUsers,
        (∃ old ∈ state.1.eventOnUsers, old.analise = row.analise) ∨
          Nova state.1 request minor row := by
  induction roles with
  | nil => exact fun state row mem => .inl ⟨row, mem, rfl⟩
  | cons role roles ih =>
      intro state row mem
      rw [List.foldl_cons] at mem
      have rest := ih _ row mem
      unfold registerRole at rest
      split at rest
      · exact rest
      · rcases rest with ⟨old, mem_old, same⟩ | ⟨none_found, new⟩
        · rcases inscrever_analise request minor role.2 mem_old with
              ⟨first, mem_first, first_same⟩ | ⟨none_found, new⟩
          · exact .inl ⟨first, mem_first, first_same.trans same⟩
          · exact .inr ⟨none_found, same.symm.trans new⟩
        · exact .inr ⟨inscrever_chaves request minor role.2 none_found, new⟩

theorem Registrou.analise (registrou : Registrou db request user event result)
    {row : EventOnUsers} (mem : row ∈ result.1.eventOnUsers) :
    (∃ old ∈ db.eventOnUsers, old.analise = row.analise) ∨
      Nova db request (minorApprovalStatusFor user event) row := by
  rw [registrou.result] at mem
  exact foldl_registerRole_analise _ _ _ (db, []) row mem

/-- What an operation on registrations leaves: rows that were there when it began to register, and
rows it created with the age and the limit of now. -/
theorem executar_analise {quando : Instant → String} {acao : AcaoDeInscricao}
    (ok : acao.executar quando db = .ok depois) :
    depois.catalogue = db.catalogue ∧ ∀ row ∈ depois.eventOnUsers,
      (∃ old ∈ (acao.preparo db).eventOnUsers, old.analise = row.analise) ∨
      ((acao.preparo db).registration? row.userId row.eventId = none ∧
        ∃ user event, db.catalogue.user? row.userId = some user ∧
          db.catalogue.event? row.eventId = some event ∧
          row.minorApprovalStatus = minorApprovalStatusFor user event) := by
  have registered : ∀ {antes : Database} {request : RegistrationRequest} {user : User}
      {event : Event} {result : Database × List (Id × ResultType)},
      Registrou antes request user event result → antes.catalogue = db.catalogue →
      antes = acao.preparo db →
      result.1.catalogue = db.catalogue ∧ ∀ row ∈ result.1.eventOnUsers,
        (∃ old ∈ (acao.preparo db).eventOnUsers, old.analise = row.analise) ∨
        ((acao.preparo db).registration? row.userId row.eventId = none ∧
          ∃ user event, db.catalogue.user? row.userId = some user ∧
            db.catalogue.event? row.eventId = some event ∧
            row.minorApprovalStatus = minorApprovalStatusFor user event) := by
    intro antes request user event result registrou same_catalogue rfl
    refine ⟨registrou.catalogue.trans same_catalogue, fun row mem => ?_⟩
    refine (registrou.analise mem).imp id fun ⟨none_found, new⟩ => ?_
    simp only [EventOnUsers.analise, EventOnUsers.chave, Prod.mk.injEq] at new
    obtain ⟨⟨user_eq, event_eq⟩, status⟩ := new
    rw [user_eq, event_eq, status]
    exact ⟨none_found, user, event, same_catalogue ▸ registrou.found_user,
      same_catalogue ▸ registrou.found_event, rfl⟩
  cases acao with
  | registerUserInEvent request =>
      obtain ⟨result, done, rfl⟩ := except_map_eq_ok_iff.mp ok
      obtain ⟨user, event, registrou⟩ := registerUserInEvent_ok done
      exact registered registrou rfl rfl
  | updateUserFromEvent userId eventId roles agora =>
      obtain ⟨result, edited, rfl⟩ := except_map_eq_ok_iff.mp ok
      obtain ⟨_, ⟨user, event, registrou⟩, _⟩ := updateUserFromEvent_ok edited
      exact registered registrou rfl rfl
  | movedUserFromWaitlistToEvent userId userRemovedId eventId role agora =>
      obtain ⟨result, moved, rfl⟩ := except_map_eq_ok_iff.mp ok
      obtain ⟨_, sai, entry, pair, rfl, rfl, found, role_found, ⟨user, event, registrou⟩, _⟩ :=
        movedUserFromWaitlistToEvent_ok moved
      refine registered registrou rfl ?_
      simp only [AcaoDeInscricao.preparo, found, role_found]
  | removeUserFromEvent idUser idEvent role =>
      unfold AcaoDeInscricao.executar removeUserFromEvent at ok
      simp only [bind_eq_ok_iff, pure_eq_ok_iff] at ok
      obtain ⟨_, _, rfl⟩ := ok
      exact ⟨rfl, fun row mem => .inl (soAntigas_filter _ _ row mem)⟩
  | removeUserFromWaitlist idUser idEvent role =>
      unfold AcaoDeInscricao.executar removeUserFromWaitlist at ok
      simp only [bind_eq_ok_iff, orFail_eq_ok_iff, pure_eq_ok_iff] at ok
      obtain ⟨entry, _, rfl⟩ := ok
      exact ⟨rfl, fun row mem => .inl (SoAntigas.refl _ row mem)⟩

end Registrations

/-! ### Edits -/

theorem event?_modifyEvent (db : Database) (id : Id) {f : Event → Event}
    (same_id : ∀ event, (f event).id = event.id) (eventId : Id) :
    (db.modifyEvent id f).catalogue.event? eventId =
      (db.catalogue.event? eventId).map fun event => if event.id = id then f event else event := by
  unfold Database.modifyEvent Catalogue.event?
  rw [List.find?_map]
  congr 2
  funext event
  by_cases here : event.id = id <;> simp [here, same_id]

theorem user?_modifyUser (db : Database) (id : Id) {f : User → User}
    (same_id : ∀ user, (f user).id = user.id) (userId : Id) :
    (db.modifyUser id f).catalogue.user? userId =
      (db.catalogue.user? userId).map fun user => if user.id = id then f user else user := by
  unfold Database.modifyUser Catalogue.user?
  rw [List.find?_map]
  congr 2
  funext user
  by_cases here : user.id = id <;> simp [here, same_id]

theorem event?_id {cat : Catalogue} {eventId : Id} {event : Event}
    (found : cat.event? eventId = some event) : event.id = eventId := by
  simpa using List.find?_some found

/-- Reclassifying gives every row the side of the age and the limit it is called with. -/
theorem reclassificar_exige (birthday inicioDoEvento : CalendarDay) (limite : Int)
    (row : EventOnUsers) :
    (row.reclassificar birthday inicioDoEvento limite).minorApprovalStatus ≠ .notRequired ↔
      calculateAge birthday inicioDoEvento < limite := by
  by_cases menor : calculateAge birthday inicioDoEvento < limite <;>
    by_cases exige : row.minorApprovalStatus = .notRequired <;>
      simp [EventOnUsers.reclassificar, menor, exige]

/-- Who is already on that side stays as she is. -/
theorem reclassificar_eq {birthday inicioDoEvento : CalendarDay} {limite : Int}
    {row : EventOnUsers} (side : row.minorApprovalStatus ≠ .notRequired ↔
      calculateAge birthday inicioDoEvento < limite) :
    row.reclassificar birthday inicioDoEvento limite = row := by
  unfold EventOnUsers.reclassificar
  rw [if_neg fun ⟨menor, exige⟩ => exige (side.mpr menor),
    if_neg fun ⟨menor, exige⟩ => menor (side.mp exige)]

theorem reclassificar_chave (birthday inicioDoEvento : CalendarDay) (limite : Int)
    (row : EventOnUsers) :
    (row.reclassificar birthday inicioDoEvento limite).chave = row.chave := by
  unfold EventOnUsers.reclassificar
  dsimp only
  split
  · rfl
  · split <;> rfl

/-- The event and the rows after its form is saved: the rows are reclassified when the limit is
another. -/
theorem updateDadosDoEvento_ok {textos : Textos} {db depois : Database} {id : Id}
    {dados : DadosDoEvento} (ok : updateDadosDoEvento textos db id dados = .ok depois) :
    ∃ event, db.catalogue.event? id = some event ∧
      depois.catalogue.users = db.catalogue.users ∧
      (∀ eventId, depois.catalogue.event? eventId =
        (db.catalogue.event? eventId).map fun event =>
          if event.id = id then dados.gravar (textos.trim dados.name) event else event) ∧
      depois.eventOnUsers =
        if idadeDoTermo (dados.gravar (textos.trim dados.name) event) ≠ idadeDoTermo event then
          (db.reclassificarMenores id dados.startDate
            (idadeDoTermo (dados.gravar (textos.trim dados.name) event))).eventOnUsers
        else db.eventOnUsers := by
  unfold updateDadosDoEvento at ok
  simp only [bind_eq_ok_iff, orFail_eq_ok_iff, failIf_eq_ok_iff, pure_eq_ok_iff] at ok
  obtain ⟨event, found, _, _, rfl⟩ := ok
  refine ⟨event, found, ?_, fun eventId => ?_, ?_⟩
  · split <;> rfl
  · rw [event?_modifyEvent _ id (f := dados.gravar (textos.trim dados.name)) (fun _ => rfl)]
    split <;> rfl
  · split <;> rfl

/-- A row of the event after reclassifying: the one there was, on the side of its person. -/
theorem mem_reclassificarMenores {db : Database} {id : Id} {inicioDoEvento : CalendarDay}
    {limite : Int} {row : EventOnUsers}
    (mem : row ∈ (db.reclassificarMenores id inicioDoEvento limite).eventOnUsers) :
    ∃ old ∈ db.eventOnUsers, old.chave = row.chave ∧ (old.eventId ≠ id → row = old) ∧
      ∀ user, old.eventId = id → db.catalogue.user? old.userId = some user →
        row = old.reclassificar user.birthday inicioDoEvento limite := by
  obtain ⟨old, mem_old, rfl⟩ := List.mem_map.mp mem
  refine ⟨old, mem_old, ?_, fun other => if_neg other, fun user here found => ?_⟩
  · split
    · split
      · exact (reclassificar_chave _ _ _ old).symm
      · rfl
    · rfl
  · simp only [here, if_true, found]

/-! ### One step -/

section Step

variable {amb : Edicoes.Ambiente} {db depois : Database} {decisoes : Decisoes}

theorem decidido_inscricao {acao : AcaoDeInscricao} (decidido : db.Decidido decisoes)
    (ok : acao.executar amb.quando db = .ok depois) :
    depois.Decidido (decisoes.anotar amb db (.inscricao acao) depois) := by
  obtain ⟨catalogue, rows⟩ := executar_analise ok
  intro row mem user event user_found event_found
  rw [catalogue] at user_found event_found
  have still : (depois.registration? row.userId row.eventId).isSome := by
    rw [Option.isSome_iff_ne_none, Ne, registration?_eq_none]
    exact fun none_found => none_found row mem rfl
  have isOk : (acao.executar amb.quando db).isOk = true := by rw [ok]; rfl
  rcases rows row mem with ⟨old, mem_old, same⟩ | ⟨none_found, user', event', user_found',
    event_found', status⟩
  · -- the row was there, and its decision stands
    have kept : ((acao.preparo db).registration? row.userId row.eventId).isNone = false := by
      rw [Option.isNone_eq_false_iff, Option.isSome_iff_ne_none, Ne, registration?_eq_none]
      exact fun none_found => none_found old mem_old (Prod.ext_iff.mp same).1
    obtain ⟨first, mem_first, same_first⟩ := soAntigas_preparo acao old mem_old
    have whole := same_first.trans same
    simp only [EventOnUsers.analise, EventOnUsers.chave, Prod.mk.injEq] at whole
    obtain ⟨⟨user_eq, event_eq⟩, status⟩ := whole
    obtain ⟨decisao, noted, side⟩ := decidido first mem_first user event (user_eq ▸ user_found)
      (event_eq ▸ event_found)
    refine ⟨decisao, ?_, status ▸ side⟩
    simp only [Decisoes.anotar, AcaoDoTermo.decidiu, EventOnUsers.chave, kept, Bool.and_false,
      Bool.false_and, Bool.false_eq_true, if_false]
    rw [← user_eq, ← event_eq]
    exact noted
  · -- the row is new, and was decided now
    obtain rfl := Option.some.inj (user_found.symm.trans user_found')
    obtain rfl := Option.some.inj (event_found.symm.trans event_found')
    refine ⟨⟨user.birthday, event.startDate⟩, ?_, ?_⟩
    · simp only [Decisoes.anotar, AcaoDoTermo.decidiu, EventOnUsers.chave, none_found, isOk, still,
        Option.isNone_none, Bool.and_self, if_true, Database.decisao, catalogue, user_found,
        event_found]
      rfl
    · rw [status]
      unfold minorApprovalStatusFor
      split <;> simp_all

theorem decidido_editarEvento {id : Id} {dados : DadosDoEvento} (decidido : db.Decidido decisoes)
    (ok : updateDadosDoEvento amb.textos db id dados = .ok depois) :
    depois.Decidido (decisoes.anotar amb db (.editarEvento id dados) depois) := by
  obtain ⟨event, found, users, event_after, rows⟩ := updateDadosDoEvento_ok ok
  set novo := dados.gravar (amb.textos.trim dados.name) with novo_def
  have user_after : ∀ userId, depois.catalogue.user? userId = db.catalogue.user? userId :=
    fun userId => by unfold Catalogue.user?; rw [users]
  have edited : depois.catalogue.event? id = some (novo event) := by
    rw [event_after, found, Option.map_some, if_pos (event?_id found)]
  have changes : ∀ chave, (AcaoDoTermo.editarEvento id dados).decidiu amb db depois chave =
      (decide (chave.2 = id) && decide (idadeDoTermo (novo event) ≠ idadeDoTermo event)) := by
    intro chave
    simp only [AcaoDoTermo.decidiu, edited, found, Option.map_some, ne_eq, Option.some.injEq,
      eq_comm]
  intro row mem user current user_found event_found
  rw [user_after] at user_found
  rw [event_after] at event_found
  obtain ⟨antes, antes_found, rfl⟩ := Option.map_eq_some_iff.mp event_found
  have antes_id := event?_id antes_found
  simp only [Decisoes.anotar, changes]
  by_cases other_limit : idadeDoTermo (novo event) = idadeDoTermo event
  · -- the limit stays: no row changes, and neither does a limit
    rw [if_neg (not_not.mpr other_limit)] at rows
    rw [rows] at mem
    obtain ⟨decisao, noted, side⟩ := decidido row mem user antes user_found antes_found
    refine ⟨decisao, by simp [other_limit, noted], side.trans ?_⟩
    split
    · next here =>
        obtain rfl : antes = event := by
          rw [← antes_id, here, found] at antes_found
          exact (Option.some.inj antes_found).symm
        rw [other_limit]
    · rfl
  · rw [if_pos other_limit] at rows
    rw [rows] at mem
    obtain ⟨old, mem_old, chave, kept, reviewed⟩ := mem_reclassificarMenores mem
    simp only [EventOnUsers.chave, Prod.mk.injEq] at chave
    obtain ⟨user_eq, event_eq⟩ := chave
    by_cases here : row.eventId = id
    · -- decided now
      obtain rfl : antes = event := by
        rw [here, found] at antes_found
        exact (Option.some.inj antes_found).symm
      refine ⟨⟨user.birthday, dados.startDate⟩, ?_, ?_⟩
      · simp only [EventOnUsers.chave, here, Database.decisao, user_after, user_found, edited]
        rw [if_pos (by simp [other_limit])]
        rfl
      · rw [reviewed user (event_eq.trans here) (user_eq ▸ user_found),
          if_pos (antes_id.trans here)]
        exact reclassificar_exige _ _ _ _
    · -- of another event
      obtain rfl := kept (event_eq ▸ here)
      obtain ⟨decisao, noted, side⟩ := decidido row mem_old user antes user_found antes_found
      refine ⟨decisao, by simp [EventOnUsers.chave, here]; exact noted, ?_⟩
      rw [if_neg (antes_id ▸ here)]
      exact side

theorem decidido_editarNascimento {userId : Id} {birthday : CalendarDay}
    (decidido : db.Decidido decisoes) :
    (updateBirthday db userId birthday).Decidido decisoes := by
  intro row mem user event user_found event_found
  unfold updateBirthday at user_found
  rw [user?_modifyUser db userId (f := fun user => { user with birthday := birthday })
    fun _ => rfl] at user_found
  obtain ⟨antes, antes_found, _⟩ := Option.map_eq_some_iff.mp user_found
  exact decidido row mem antes event antes_found event_found

/-- Sending or reviewing the term keeps a status that requires it. -/
theorem decidido_modifyRegistration {userId eventId : Id} {registration : EventOnUsers}
    {f : EventOnUsers → EventOnUsers} (decidido : db.Decidido decisoes)
    (found : db.registration? userId eventId = some registration)
    (exige : registration.minorApprovalStatus ≠ .notRequired)
    (same_key : ∀ row, (f row).userId = row.userId ∧ (f row).eventId = row.eventId)
    (still : ∀ row, (f row).minorApprovalStatus ≠ .notRequired) :
    (db.modifyRegistration userId eventId f).Decidido decisoes := by
  intro row mem user event user_found event_found
  obtain ⟨old, mem_old, rfl⟩ := List.mem_map.mp mem
  by_cases here : old.userId = userId ∧ old.eventId = eventId
  · have key : (decide (old.userId = userId) && decide (old.eventId = eventId)) = true := by
      simpa using here
    rw [if_pos key] at user_found event_found ⊢
    rw [(same_key old).1] at user_found
    rw [(same_key old).2] at event_found
    have registration_mem := List.mem_of_find?_eq_some found
    have registration_key : registration.userId = userId ∧ registration.eventId = eventId := by
      simpa using List.find?_some found
    obtain ⟨decisao, noted, side⟩ := decidido registration registration_mem user event
      (by rw [registration_key.1, ← here.1]; exact user_found)
      (by rw [registration_key.2, ← here.2]; exact event_found)
    refine ⟨decisao, ?_, iff_of_true (still old) (side.mp exige)⟩
    rw [EventOnUsers.chave, (same_key old).1, (same_key old).2, here.1, here.2,
      ← registration_key.1, ← registration_key.2]
    exact noted
  · have key : (decide (old.userId = userId) && decide (old.eventId = eventId)) = false := by
      simpa using here
    rw [key, if_neg Bool.false_ne_true] at user_found event_found ⊢
    exact decidido old mem_old user event user_found event_found

theorem decidido_comTermos (decidido : db.Decidido decisoes) (acao : AcaoDoTermo) :
    (db.comTermos amb acao).Decidido
      (decisoes.anotar amb db acao (db.comTermos amb acao)) := by
  have failed : ∀ falha, acao.executar amb db = .error falha →
      decisoes.anotar amb db acao db = decisoes := by
    intro falha error
    funext chave
    refine if_neg ?_
    cases acao with
    | inscricao acao =>
        have not_ok : (acao.executar amb.quando db).isOk = false := by
          rw [show acao.executar amb.quando db = .error falha from error]; rfl
        simp [AcaoDoTermo.decidiu, not_ok]
    | editarEvento id dados => simp [AcaoDoTermo.decidiu]
    | editarNascimento userId birthday => simp [AcaoDoTermo.decidiu]
    | enviarTermo userId eventId url => simp [AcaoDoTermo.decidiu]
    | revisar userId eventId body requesterId agora => simp [AcaoDoTermo.decidiu]
  unfold Database.comTermos
  split
  · next depois ok =>
      cases acao with
      | inscricao acao => exact decidido_inscricao decidido ok
      | editarEvento id dados => exact decidido_editarEvento decidido ok
      | editarNascimento userId birthday =>
          obtain rfl := pure_eq_ok_iff.mp ok
          exact decidido_editarNascimento decidido
      | enviarTermo userId eventId url =>
          simp only [AcaoDoTermo.executar, uploadGuardianTerm, bind_eq_ok_iff, orFail_eq_ok_iff,
            failIf_eq_ok_iff, pure_eq_ok_iff] at ok
          obtain ⟨registration, found, _, exige, rfl⟩ := ok
          exact decidido_modifyRegistration decidido found exige (fun _ => ⟨rfl, rfl⟩)
            fun _ => by simp
      | revisar userId eventId body requesterId agora =>
          simp only [AcaoDoTermo.executar, reviewGuardianApproval, bind_eq_ok_iff, orFail_eq_ok_iff,
            failIf_eq_ok_iff, pure_eq_ok_iff] at ok
          obtain ⟨registration, found, _, exige, _, _, _, _, rfl⟩ := ok
          refine decidido_modifyRegistration decidido found exige (fun _ => ⟨rfl, rfl⟩) fun _ => ?_
          unfold GuardianApprovalDto.status
          split <;> simp
  · next falha error => rw [failed falha error]; exact decidido

/-- An edit leaves who stays on her side as she is. -/
theorem ficaComoEsta_comTermos (decidido : db.Decidido decisoes) (acao : AcaoDoTermo) :
    FicaComoEsta amb (db, decisoes) acao := by
  intro row mem side
  unfold Database.comTermos
  split
  · next depois ok =>
      cases acao with
      | editarEvento id dados =>
          obtain ⟨event, found, _, _, rows⟩ := updateDadosDoEvento_ok ok
          rw [rows]
          split
          · next other_limit =>
              refine List.mem_map.mpr ⟨row, mem, ?_⟩
              split
              · next here =>
                  cases user_found : db.catalogue.user? row.userId with
                  | none => rfl
                  | some user =>
                      obtain same_limit | ⟨decisao, noted, same_side⟩ :=
                        side here user event user_found found
                      · exact absurd same_limit other_limit
                      · obtain ⟨decisao', noted', status⟩ :=
                          decidido row mem user event user_found (here ▸ found)
                        obtain rfl := Option.some.inj (noted.symm.trans noted')
                        exact reclassificar_eq (status.trans same_side)
              · rfl
          · exact mem
      | editarNascimento userId birthday =>
          obtain rfl := pure_eq_ok_iff.mp ok
          exact mem
      | inscricao acao => exact side.elim
      | enviarTermo userId eventId url => exact side.elim
      | revisar userId eventId body requesterId agora => exact side.elim
  · exact mem

end Step

/-! ### Runs -/

/-- In every state of every run of registrations, edits of events and birthdays, and terms sent and
reviewed, the status of each registration is that of its last decision; and no edit touches the
status or the review of who stays on her side. -/
theorem menores_run (amb : Edicoes.Ambiente) {db : Database} {decisoes : Decisoes}
    (decidido : db.Decidido decisoes) (acoes : List AcaoDoTermo) :
    Always (withHistory (Database.comTermos amb) (Decisoes.anotar amb))
        (fun s => s.1.Decidido s.2) (db, decisoes) acoes ∧
      EachStep (withHistory (Database.comTermos amb) (Decisoes.anotar amb))
        (FicaComoEsta amb) (db, decisoes) acoes := by
  have always : Always (withHistory (Database.comTermos amb) (Decisoes.anotar amb))
      (fun s : Database × Decisoes => s.1.Decidido s.2) (db, decisoes) acoes :=
    always_of_step (P := fun s : Database × Decisoes => s.1.Decidido s.2)
      (fun _ acao decidido => decidido_comTermos decidido acao) decidido acoes
  exact ⟨always, eachStep_of_always (G := fun _ _ => True)
    (fun _ acao decidido _ => ficaComoEsta_comTermos decidido acao) always
    (eachStep_of_forall fun _ _ => trivial)⟩

/-! ### Another first day

A participant of fifteen years registers in an event, and then the event is put off for a year. -/

namespace OutraData

def jovem : User := { UmaVaga.pessoa 1 with birthday := ⟨2010, 3, 10⟩ }

def evento : Event := { UmaVaga.evento with minorAgeLimitIs18 := false }

def vazio : Database :=
  { UmaVaga.vazio with
    catalogue := { UmaVaga.vazio.catalogue with users := [jovem], events := [evento] } }

def amb : Edicoes.Ambiente where
  quando := UmaVaga.quando
  textos := ⟨id, id⟩

/-- The form of the event with this first day and limit. -/
def dados (startDate : CalendarDay) (minorAgeLimit : Option Int) : DadosDoEvento where
  name := "Retiro"
  status := none
  startDate := startDate
  endDate := 0
  publicStore := none
  minorAgeLimit := minorAgeLimit

def acoes : List AcaoDoTermo :=
  [.inscricao (UmaVaga.inscrever 1 7), .editarEvento 5 (dados ⟨2026, 7, 1⟩ none)]

end OutraData

/-- She will be sixteen on the new first day, and the term is still required of her. -/
theorem not_menoresComTermo_outraData :
    ¬ Always (Database.comTermos OutraData.amb) Database.MenoresComTermo OutraData.vazio
      OutraData.acoes := by
  intro always
  have law := always.last
  have rows : ((runFrom (Database.comTermos OutraData.amb) OutraData.vazio
      OutraData.acoes).eventOnUsers.map fun row =>
        (row.userId, row.eventId, row.minorApprovalStatus)) = [(1, 5, .pending)] := by
    decide +kernel
  have user : (runFrom (Database.comTermos OutraData.amb) OutraData.vazio
      OutraData.acoes).catalogue.user? 1 = some OutraData.jovem := by decide +kernel
  have event : (runFrom (Database.comTermos OutraData.amb) OutraData.vazio
      OutraData.acoes).catalogue.event? 5 =
        some ((OutraData.dados ⟨2026, 7, 1⟩ none).gravar "Retiro" OutraData.evento) := by
    decide +kernel
  obtain ⟨row, _, there, same, _⟩ := List.map_eq_cons_iff.mp rows
  simp only [Prod.mk.injEq] at same
  obtain ⟨user_eq, event_eq, pending⟩ := same
  have side := law row (there ▸ List.mem_cons_self) _ _ (user_eq ▸ user) (event_eq ▸ event)
  rw [pending] at side
  exact absurd (side.mp (by decide)) (by decide)

/-- The event is put off, the term is sent and the limit goes up. -/
theorem menores_run_outraData :
    Always (withHistory (Database.comTermos OutraData.amb) (Decisoes.anotar OutraData.amb))
        (fun s => s.1.Decidido s.2) (OutraData.vazio, fun _ => none)
        (OutraData.acoes ++ [.enviarTermo 1 5 "data:,termo",
          .editarEvento 5 (OutraData.dados ⟨2026, 7, 1⟩ (some 18))]) ∧
      EachStep (withHistory (Database.comTermos OutraData.amb) (Decisoes.anotar OutraData.amb))
        (FicaComoEsta OutraData.amb) (OutraData.vazio, fun _ => none)
        (OutraData.acoes ++ [.enviarTermo 1 5 "data:,termo",
          .editarEvento 5 (OutraData.dados ⟨2026, 7, 1⟩ (some 18))]) :=
  menores_run OutraData.amb (by simp [Database.Decidido, OutraData.vazio, UmaVaga.vazio]) _

end IccvBackend
