/-
Module: IccvBackend.Proofs.CheckinPanel
Purpose: When the numbers of the check-in describe its list: as long as nobody with a check-in
  leaves the event, and no badge is delivered to somebody who has left.
Trusted boundary: none
Main exports: Balcao.Descreve, Balcao.SemOrfaos, Balcao.descreve_iff, Balcao.descreve_run_iff
-/
import IccvBackend.Checkin.Panel
import IccvBackend.Proofs.Bedrooms
import IccvBackend.Proofs.CheckinStamps

namespace IccvBackend

open Lib

namespace Balcao

variable {quando : Instant → String} {textos : TextosDoBalcao} {b : Balcao} {eventId : Id}

/-- How many participants of the list have a status. -/
def naLista (textos : TextosDoBalcao) (b : Balcao) (eventId : Id) (status : CheckinStatus) : Nat :=
  (b.search textos eventId none).countP fun p => p.status = status

/-- The numbers of every event are those of its list, and add up to its total. -/
def Descreve (textos : TextosDoBalcao) (b : Balcao) : Prop :=
  ∀ eventId, (b.stats eventId).pending = b.naLista textos eventId .pending ∧
    (b.stats eventId).queued = b.naLista textos eventId .queued ∧
    (b.stats eventId).inProgress = b.naLista textos eventId .inProgress ∧
    (b.stats eventId).done = b.naLista textos eventId .done ∧
    (b.stats eventId).pending + (b.stats eventId).queued + (b.stats eventId).inProgress +
      (b.stats eventId).done = (b.stats eventId).total

/-- A check-in that was begun belongs to a registration. -/
def SemOrfaos (b : Balcao) : Prop :=
  ∀ r ∈ b.checkins, r.status ≠ .pending → b.inscrito r.userId r.eventId = true

/-- The primary keys of the registrations and of the check-ins. -/
structure ChavesDoDia (b : Balcao) : Prop where
  inscricoes : (b.db.eventOnUsers.map EventOnUsers.chave).Nodup
  checkins : (b.checkins.map CheckinRow.chave).Nodup

/-! ### The list, counted -/

/-- The registrations of an event. -/
def doEvento (b : Balcao) (eventId : Id) : List EventOnUsers :=
  b.db.eventOnUsers.filter fun row => row.eventId = eventId

/-- The status of a person at an event. -/
def statusDe (b : Balcao) (userId eventId : Id) : CheckinStatus :=
  ((b.checkin? userId eventId).map fun r => r.status).getD .pending

theorem mem_doEvento {row : EventOnUsers} :
    row ∈ b.doEvento eventId ↔ row ∈ b.db.eventOnUsers ∧ row.eventId = eventId := by
  unfold doEvento
  rw [List.mem_filter, decide_eq_true_eq]

theorem inscrito_iff {userId : Id} :
    b.inscrito userId eventId = true ↔ ∃ row ∈ b.doEvento eventId, row.userId = userId := by
  unfold inscrito Database.registration?
  rw [List.find?_isSome]
  constructor
  · rintro ⟨row, mem, both⟩
    simp only [Bool.and_eq_true, decide_eq_true_eq] at both
    exact ⟨row, mem_doEvento.mpr ⟨mem, both.2⟩, both.1⟩
  · rintro ⟨row, mem, same⟩
    obtain ⟨there, event⟩ := mem_doEvento.mp mem
    exact ⟨row, there, by simp [same, event]⟩

/-- The check-in `search` finds for a registration is the one of its key. -/
theorem find?_checkin {row : EventOnUsers} (mem : row ∈ b.doEvento eventId)
    (rows : List EventOnUsers) (perm : rows.Perm (b.doEvento eventId)) :
    ((b.checkins.filter fun r => r.eventId = eventId &&
      rows.any fun row => row.userId = r.userId).find? fun r => r.userId = row.userId) =
        b.checkin? row.userId eventId := by
  unfold checkin? lookup
  rw [List.find?_filter]
  congr 1
  funext r
  rw [Bool.eq_iff_iff]
  simp only [Bool.and_eq_true, decide_eq_true_eq, CheckinRow.chave, Prod.mk.injEq]
  constructor
  · rintro ⟨⟨event, _⟩, user⟩
    exact ⟨user, event⟩
  · rintro ⟨user, event⟩
    refine ⟨⟨event, ?_⟩, user⟩
    exact List.any_eq_true.mpr ⟨row, perm.mem_iff.mpr mem, by simp [user]⟩

theorem naLista_eq (textos : TextosDoBalcao) (b : Balcao) (eventId : Id) (status : CheckinStatus) :
    b.naLista textos eventId status =
      (b.doEvento eventId).countP fun row => b.statusDe row.userId eventId = status := by
  have perm : (b.registrations textos eventId none).Perm (b.doEvento eventId) := by
    unfold registrations doEvento
    simp only [Option.all_none, Bool.and_true]
    exact List.mergeSort_perm _ _
  unfold naLista search
  simp only
  rw [List.countP_map, ← perm.countP_eq]
  apply List.countP_congr
  intro row mem
  simp only [Function.comp_apply, mapParticipant, find?_checkin (perm.mem_iff.mp mem) _ perm]
  exact Iff.rfl

theorem total_eq (b : Balcao) (eventId : Id) :
    (b.stats eventId).total = (b.doEvento eventId).length := by
  unfold stats doEvento
  exact List.countP_eq_length_filter

/-- Each registration has one of the four statuses. -/
theorem length_eq_naLista (textos : TextosDoBalcao) (b : Balcao) (eventId : Id) :
    (b.doEvento eventId).length = b.naLista textos eventId .pending +
      b.naLista textos eventId .queued + b.naLista textos eventId .inProgress +
      b.naLista textos eventId .done := by
  simp only [naLista_eq]
  induction b.doEvento eventId with
  | nil => rfl
  | cons row rows ih =>
      simp only [List.length_cons, List.countP_cons]
      cases b.statusDe row.userId eventId <;> simp <;> omega

/-! ### Check-ins and registrations -/

/-- How many check-ins of a status nobody is registered for. -/
def orfaos (b : Balcao) (eventId : Id) (status : CheckinStatus) : Nat :=
  b.checkins.countP fun r =>
    r.eventId = eventId && r.status = status && !b.inscrito r.userId eventId

/-- The check-ins of a status, of registered people, are the registrations of that status. -/
theorem countP_inscritos (chaves : ChavesDoDia b) (eventId : Id) {status : CheckinStatus}
    (begun : status ≠ .pending) :
    (b.checkins.countP fun r =>
      r.eventId = eventId && r.status = status && b.inscrito r.userId eventId) =
        (b.doEvento eventId).countP fun row => b.statusDe row.userId eventId = status := by
  rw [List.countP_eq_length_filter, List.countP_eq_length_filter,
    ← List.length_map CheckinRow.chave, ← List.length_map EventOnUsers.chave]
  apply List.Perm.length_eq
  apply (List.perm_ext_iff_of_nodup (chaves.checkins.sublist (List.filter_sublist.map _))
    (chaves.inscricoes.sublist ((List.filter_sublist.trans List.filter_sublist).map _))).mpr
  rintro ⟨userId, event⟩
  rw [List.mem_map, List.mem_map]
  constructor
  · rintro ⟨r, taken, key⟩
    obtain ⟨mem, passes⟩ := List.mem_filter.mp taken
    simp only [Bool.and_eq_true, decide_eq_true_eq] at passes
    obtain ⟨⟨is_event, is_status⟩, registered⟩ := passes
    obtain ⟨row, row_mem, same⟩ := inscrito_iff.mp registered
    have found := checkin?_of_mem chaves.checkins mem
    refine ⟨row, List.mem_filter.mpr ⟨row_mem, decide_eq_true ?_⟩, ?_⟩
    · rw [statusDe, same, ← is_event, found]
      exact is_status
    · rw [← key]
      simp only [EventOnUsers.chave, CheckinRow.chave, same, is_event, (mem_doEvento.mp row_mem).2]
  · rintro ⟨row, taken, key⟩
    obtain ⟨row_mem, is_status⟩ := List.mem_filter.mp taken
    replace is_status := of_decide_eq_true is_status
    have of_event := (mem_doEvento.mp row_mem).2
    unfold statusDe at is_status
    cases found : b.checkin? row.userId eventId with
    | none =>
        rw [found] at is_status
        exact absurd is_status.symm begun
    | some r =>
        rw [found] at is_status
        obtain ⟨mem, same⟩ := (lookup_eq_some_iff chaves.checkins).mp found
        obtain ⟨user, event'⟩ := Prod.mk.inj same
        have registered := inscrito_iff.mpr ⟨row, row_mem, user.symm⟩
        replace is_status : r.status = status := is_status
        refine ⟨r, List.mem_filter.mpr ⟨mem, ?_⟩, ?_⟩
        · simp only [event', is_status, registered, decide_true, Bool.and_self]
        · rw [← key, same]
          simp only [EventOnUsers.chave, of_event]

/-- `stats` counts the list, and the check-ins nobody is registered for. -/
theorem contagem_eq (textos : TextosDoBalcao) (chaves : ChavesDoDia b) (eventId : Id)
    (status : CheckinStatus) (begun : status ≠ .pending) :
    b.contagem eventId status = b.naLista textos eventId status + b.orfaos eventId status := by
  rw [naLista_eq, ← countP_inscritos chaves eventId begun]
  unfold contagem orfaos
  induction b.checkins with
  | nil => rfl
  | cons r rows ih =>
      simp only [List.countP_cons, ih]
      cases b.inscrito r.userId eventId <;> simp <;> omega

theorem orfaos_eq_zero_iff {status : CheckinStatus} :
    b.orfaos eventId status = 0 ↔
      ∀ r ∈ b.checkins, r.eventId = eventId → r.status = status →
        b.inscrito r.userId eventId = true := by
  unfold orfaos
  rw [List.countP_eq_zero]
  simp only [Bool.and_eq_true, decide_eq_true_eq, Bool.not_eq_true', not_and, Bool.not_eq_false,
    and_imp]

/-- The numbers describe the list when every check-in that was begun belongs to a registration. -/
theorem descreve_iff (textos : TextosDoBalcao) (chaves : ChavesDoDia b) :
    b.Descreve textos ↔ b.SemOrfaos := by
  constructor
  · intro numbers r mem begun
    obtain ⟨_, queued, inProgress, done, _⟩ := numbers r.eventId
    have none_left : ∀ status, status ≠ .pending →
        b.contagem r.eventId status = b.naLista textos r.eventId status →
          b.orfaos r.eventId status = 0 := by
      intro status other same
      have split := contagem_eq textos chaves r.eventId status other
      omega
    have zero : b.orfaos r.eventId r.status = 0 := by
      cases is : r.status with
      | pending => exact absurd is begun
      | queued => exact none_left .queued (by decide) queued
      | inProgress => exact none_left .inProgress (by decide) inProgress
      | done => exact none_left .done (by decide) done
    exact orfaos_eq_zero_iff.mp zero r mem rfl rfl
  · intro owned eventId
    have zero : ∀ status, status ≠ .pending → b.orfaos eventId status = 0 := by
      intro status begun
      apply orfaos_eq_zero_iff.mpr
      rintro r mem rfl rfl
      exact owned r mem begun
    have queued := contagem_eq textos chaves eventId .queued (by decide)
    have inProgress := contagem_eq textos chaves eventId .inProgress (by decide)
    have done := contagem_eq textos chaves eventId .done (by decide)
    rw [zero .queued (by decide), add_zero] at queued
    rw [zero .inProgress (by decide), add_zero] at inProgress
    rw [zero .done (by decide), add_zero] at done
    have total := length_eq_naLista textos b eventId
    rw [← total_eq] at total
    have pending : (b.stats eventId).pending = (b.stats eventId).total - b.contagem eventId
        .queued -
        b.contagem eventId .inProgress - b.contagem eventId .done := rfl
    refine ⟨by omega, queued, inProgress, done, ?_⟩
    change (b.stats eventId).pending + b.contagem eventId .queued +
      b.contagem eventId .inProgress + b.contagem eventId .done = _
    omega

/-! ### The day -/

/-- The person has a begun check-in at the event. -/
def Comecou (b : Balcao) (userId eventId : Id) : Prop :=
  ∃ r ∈ b.checkins, r.chave = (userId, eventId) ∧ r.status ≠ .pending

/-- Nobody with a begun check-in is removed from the event or gives the place to somebody of the
waiting list, unless with a role left in another group, and no badge is delivered to somebody who is
out of the event. -/
def ComInscricao (quando : Instant → String) (textos : TextosDoBalcao) (b : Balcao) :
    AcaoDoDia → Prop
  | .inscricao (.removeUserFromEvent idUser idEvent roleId) =>
      (removeUserFromEventCheck b.db idUser idEvent roleId).isOk → ¬ b.Comecou idUser idEvent
  | .inscricao (.movedUserFromWaitlistToEvent userId userRemovedId eventId roleId agora) =>
      (movedUserFromWaitlistToEvent quando b.db userId userRemovedId eventId roleId agora).isOk →
        ∀ sai, userRemovedId = some sai → userId ≠ some sai → b.Comecou sai eventId →
          ∃ i ∈ b.db.inscricoes, i.userId = sai ∧ i.eventId = eventId ∧
            ¬ b.db.catalogue.MesmoGrupo roleId i.roleRegistrationId
  | .inscricao _ => True
  | .balcao acao => ∀ userId eventId,
      b.feito? textos acao = some (.entregou, userId, eventId) → b.inscrito userId eventId = true

/-! ### Registrations -/

section Inscricoes

variable {acao : AcaoDeInscricao}

theorem inscrito_eq_true_iff {userId eventId : Id} :
    b.inscrito userId eventId = true ↔ b.db.Inscrito userId eventId := by
  rw [inscrito_iff, inscrito_iff_exists]
  simp only [mem_doEvento]
  exact ⟨fun ⟨row, ⟨mem, event⟩, user⟩ => ⟨row, mem, user, event⟩,
    fun ⟨row, mem, user, event⟩ => ⟨row, ⟨mem, event⟩, user⟩⟩

theorem semOrfaos_iff :
    b.SemOrfaos ↔ ∀ userId eventId, b.Comecou userId eventId → b.db.Inscrito userId eventId := by
  constructor
  · rintro owned userId eventId ⟨r, mem, key, begun⟩
    obtain ⟨rfl, rfl⟩ := Prod.mk.inj key
    exact inscrito_eq_true_iff.mp (owned r mem begun)
  · exact fun owned r mem begun =>
      inscrito_eq_true_iff.mpr (owned r.userId r.eventId ⟨r, mem, rfl, begun⟩)

/-- An operation that is refused changes nothing. -/
theorem inscrevendo_of_error {falhou : Failure}
    (refused : acao.executar quando b.db = .error falhou) :
    b.db.inscrevendo quando acao = b.db := by
  simp [Database.inscrevendo, refused]

theorem inscrevendo_of_ok {depois : Database} (ok : acao.executar quando b.db = .ok depois) :
    b.db.inscrevendo quando acao = depois := by
  simp [Database.inscrevendo, ok]

/-- Which changes of the registrations leave a begun check-in without one. -/
theorem semOrfaos_inscrevendo (ordem : b.db.EmOrdem) (owned : b.SemOrfaos)
    (acao : AcaoDeInscricao) :
    (∀ userId eventId, b.Comecou userId eventId →
        (b.db.inscrevendo quando acao).Inscrito userId eventId) ↔
      b.ComInscricao quando textos (.inscricao acao) := by
  have inside := semOrfaos_iff.mp owned
  cases acao with
  | registerUserInEvent request =>
      refine iff_of_true (fun userId eventId begun => ?_) trivial
      cases registered : registerUserInEvent quando b.db request with
      | error falhou =>
          have refused : AcaoDeInscricao.executar quando b.db
              (.registerUserInEvent request) = .error falhou := by
            simp [AcaoDeInscricao.executar, registered, Except.map]
          rw [inscrevendo_of_error refused]
          exact inside userId eventId begun
      | ok result =>
          obtain ⟨user, event, registrou⟩ := registerUserInEvent_ok registered
          have done : AcaoDeInscricao.executar quando b.db
              (.registerUserInEvent request) = .ok result.1 := by
            simp [AcaoDeInscricao.executar, registered, Except.map]
          rw [inscrevendo_of_ok done]
          exact registrou.inscrito (inside userId eventId begun)
  | updateUserFromEvent userId eventId roles agora =>
      refine iff_of_true (fun u e begun => ?_) trivial
      cases edited : updateUserFromEvent quando b.db userId eventId roles agora with
      | error falhou =>
          have refused : AcaoDeInscricao.executar quando b.db
              (.updateUserFromEvent userId eventId roles agora) = .error falhou := by
            simp [AcaoDeInscricao.executar, edited, Except.map]
          rw [inscrevendo_of_error refused]
          exact inside u e begun
      | ok result =>
          have done : AcaoDeInscricao.executar quando b.db
              (.updateUserFromEvent userId eventId roles agora) = .ok result.1 := by
            simp [AcaoDeInscricao.executar, edited, Except.map]
          rw [inscrevendo_of_ok done]
          exact Hospedagem.inscrito_updateUserFromEvent ordem edited (inside u e begun)
  | removeUserFromWaitlist idUser idEvent roleId =>
      refine iff_of_true (fun u e begun => ?_) trivial
      have rows : (b.db.inscrevendo quando (.removeUserFromWaitlist idUser idEvent
          roleId)).eventOnUsers = b.db.eventOnUsers := by
        unfold Database.inscrevendo
        split
        · next depois ok =>
            simp only [AcaoDeInscricao.executar, IccvBackend.removeUserFromWaitlist, bind_eq_ok_iff,
              pure_eq_ok_iff] at ok
            obtain ⟨_, _, rfl⟩ := ok
            rfl
        · rfl
      unfold Database.Inscrito
      rw [rows]
      exact inside u e begun
  | removeUserFromEvent idUser idEvent roleId =>
      cases checked : removeUserFromEventCheck b.db idUser idEvent roleId with
      | error falhou =>
          have refused : AcaoDeInscricao.executar quando b.db
              (.removeUserFromEvent idUser idEvent roleId) = .error falhou := by
            simp [AcaoDeInscricao.executar, removeUserFromEvent, checked, bind, Except.bind]
          rw [inscrevendo_of_error refused]
          simp only [ComInscricao, checked, Except.isOk, Except.toBool, Bool.false_eq_true,
            false_implies, iff_true]
          exact inside
      | ok =>
          have done : AcaoDeInscricao.executar quando b.db
              (.removeUserFromEvent idUser idEvent roleId) =
                .ok (removeUserFromEventTx b.db idUser idEvent) := by
            simp [AcaoDeInscricao.executar, removeUserFromEvent, checked, bind, Except.bind, pure,
              Except.pure]
          rw [inscrevendo_of_ok done]
          simp only [ComInscricao, checked, Except.isOk, Except.toBool, true_implies]
          have stays (u e : Id) :
              (removeUserFromEventTx b.db idUser idEvent).Inscrito u e ↔
                b.db.Inscrito u e ∧ ¬ (u = idUser ∧ e = idEvent) := inscrito_filter rfl
          constructor
          · exact fun kept begun => ((stays idUser idEvent).mp (kept _ _ begun)).2 ⟨rfl, rfl⟩
          · refine fun nobody u e begun => (stays u e).mpr ⟨inside u e begun, ?_⟩
            rintro ⟨rfl, rfl⟩
            exact nobody begun
  | movedUserFromWaitlistToEvent userId userRemovedId eventId roleId agora =>
      cases moved : movedUserFromWaitlistToEvent quando b.db userId userRemovedId eventId roleId
          agora with
      | error falhou =>
          have refused : AcaoDeInscricao.executar quando b.db
              (.movedUserFromWaitlistToEvent userId userRemovedId eventId roleId agora) =
                .error falhou := by
            simp [AcaoDeInscricao.executar, moved, Except.map]
          rw [inscrevendo_of_error refused]
          simp only [ComInscricao, moved, Except.isOk, Except.toBool, Bool.false_eq_true,
            false_implies, iff_true]
          exact inside
      | ok result =>
          have done : AcaoDeInscricao.executar quando b.db
              (.movedUserFromWaitlistToEvent userId userRemovedId eventId roleId agora) =
                .ok result.1 := by
            simp [AcaoDeInscricao.executar, moved, Except.map]
          rw [inscrevendo_of_ok done]
          simp only [ComInscricao, moved, Except.isOk, Except.toBool, true_implies]
          obtain ⟨pessoa, sai, rfl, rfl, stays⟩ :=
            Hospedagem.movedUserFromWaitlistToEvent_inscrito ordem moved
          constructor
          · intro kept quem removed other begun
            obtain rfl := Option.some.inj removed
            rcases (stays sai eventId (inside _ _ begun)).mp (kept _ _ begun) with
              ⟨same, _⟩ | keeps
            · exact absurd (congrArg some same.symm) other
            · exact keeps rfl rfl
          · intro keeps u e begun
            apply (stays u e (inside u e begun)).mpr
            by_cases here : u = pessoa ∧ e = eventId
            · exact .inl here
            · refine .inr ?_
              rintro rfl rfl
              exact keeps u rfl (fun same => here ⟨(Option.some.inj same).symm, rfl⟩) begun

end Inscricoes

section Passo

variable {c : Chamada} {ponto : Ponto} {depois : Balcao}

theorem Mudanca.db_eq (mudanca : Mudanca b c ponto depois) : depois.db = b.db := by
  cases mudanca <;> rfl

/-- What a write of a status leaves of a begun check-in: it was begun, or was just delivered. -/
theorem Grava.begun {f : Feito} {r : CheckinRow} {status : CheckinStatus}
    {g : CheckinRow → CheckinRow} (grava : Grava f status g) (was : r.status = status)
    (begun : (g r).status ≠ .pending) : f = .entregou ∨ r.status ≠ .pending := by
  cases grava with
  | entregou => exact .inl rfl
  | chamou operatorId agora => exact .inr (by simp [was])
  | concluiu operatorId agora notes esperado =>
      right
      rintro pending
      rw [← was, pending] at esperado
      exact absurd esperado (by decide)
  | desfez =>
      right
      intro pending
      rw [← was, pending] at begun
      exact begun pending
  | reverteu esperado => exact .inr (was ▸ esperado)

theorem mem_atualizar {u e : Id} {g : CheckinRow → CheckinRow} {row : CheckinRow}
    (mem : row ∈ (b.atualizar u e g).checkins) :
    row ∈ b.checkins ∨ ∃ r ∈ b.checkins, r.chave = (u, e) ∧ row = g r := by
  obtain ⟨r, there, rfl⟩ := List.mem_map.mp mem
  by_cases same : r.chave = (u, e)
  · exact .inr ⟨r, there, same, if_pos same⟩
  · exact .inl (by rwa [if_neg same])

/-- A begun check-in after a statement was begun before it, or is the one just delivered. -/
theorem Mudanca.begun (mudanca : Mudanca b c ponto depois)
    (chaves : (b.checkins.map CheckinRow.chave).Nodup) {row : CheckinRow}
    (mem : row ∈ depois.checkins) (begun : row.status ≠ .pending) :
    (∃ r ∈ b.checkins, r.chave = row.chave ∧ r.status ≠ .pending) ∨
      (feitoDe c.ponto ponto = some (.entregou, row.userId) ∧ row.eventId = c.eventId) := by
  cases mudanca with
  | leu => exact .inl ⟨row, mem, rfl, begun⟩
  | ocupou => exact .inl ⟨row, mem, rfl, begun⟩
  | liberou => exact .inl ⟨row, mem, rfl, begun⟩
  | criou userId agora de livre =>
      rcases List.mem_append.mp mem with old | new
      · exact .inl ⟨row, old, rfl, begun⟩
      · rw [List.mem_singleton.mp new, de]
        exact .inr ⟨rfl, rfl⟩
  | @gravou ponto f userId r g feito achado grava lido solta segue =>
      rcases mem_atualizar mem with old | ⟨r', there, key, rfl⟩
      · exact .inl ⟨row, old, rfl, begun⟩
      · have same : r' = r := by
          have found : b.checkin? userId c.eventId = some r' :=
            (lookup_eq_some_iff chaves).mpr ⟨there, key⟩
          exact Option.some.inj (found.symm.trans achado)
        subst same
        have kept : (g r').chave = (userId, c.eventId) := (grava.chave r').trans key
        rcases grava.begun rfl begun with rfl | before
        · right
          rw [feito]
          exact ⟨by rw [(Prod.mk.inj kept).1], (Prod.mk.inj kept).2⟩
        · exact .inl ⟨r', there, key.trans kept.symm, before⟩
  | registrou userId bedroomId de =>
      rcases mem_atualizar mem with old | ⟨r, there, _, rfl⟩
      · exact .inl ⟨row, old, rfl, begun⟩
      · exact .inl ⟨r, there, rfl, begun⟩
  | limpou userId de =>
      rcases mem_atualizar mem with old | ⟨r, there, _, rfl⟩
      · exact .inl ⟨row, old, rfl, begun⟩
      · exact .inl ⟨r, there, rfl, begun⟩

/-- A delivery leaves a begun check-in of its person. -/
theorem Mudanca.entregou (mudanca : Mudanca b c ponto depois) {userId : Id}
    (feito : feitoDe c.ponto ponto = some (.entregou, userId)) :
    ∃ row ∈ depois.checkins, row.chave = (userId, c.eventId) ∧ row.status ≠ .pending := by
  cases mudanca with
  | leu nada => rw [nada] at feito; cases feito
  | criou u agora de livre =>
      rw [de] at feito
      cases feito
      exact ⟨_, List.mem_append_right _ (List.mem_singleton_self _), rfl, by simp [CheckinRow.nova]⟩
  | @gravou ponto f u r g feito' achado grava lido solta segue =>
      rw [feito'] at feito
      cases feito
      have there := lookup_mem achado
      have key := lookup_key achado
      refine ⟨g r, List.mem_map.mpr ⟨r, there, if_pos key⟩, (grava.chave r).trans key, ?_⟩
      generalize r.status = status at grava
      cases grava with
      | entregou operatorId agora => simp [CheckinRow.entregar]
  | ocupou u quarto quartos de => rw [de] at feito; cases feito
  | registrou u bedroomId de => rw [de] at feito; cases feito
  | liberou u bedroomId de => rw [de] at feito; cases feito
  | limpou u de => rw [de] at feito; cases feito

end Passo

/-- What the day keeps. -/
structure EmDia (b : Balcao) : Prop where
  ordem : b.db.EmOrdem
  checkins : (b.checkins.map CheckinRow.chave).Nodup
  semOrfaos : b.SemOrfaos

theorem EmDia.chaves (emDia : b.EmDia) : b.ChavesDoDia := ⟨emDia.ordem.chaves, emDia.checkins⟩

variable (quando textos) in
/-- The keys of the two tables hold after every step. -/
theorem chaves_noDia (acao : AcaoDoDia) (ordem : b.db.EmOrdem)
    (chaves : (b.checkins.map CheckinRow.chave).Nodup) :
    (b.noDia quando textos acao).db.EmOrdem ∧
      ((b.noDia quando textos acao).checkins.map CheckinRow.chave).Nodup := by
  cases acao with
  | inscricao acao => exact ⟨emOrdem_inscrevendo ordem, chaves⟩
  | balcao acao =>
      change (b.step textos acao).db.EmOrdem ∧ ((b.step textos acao).checkins.map _).Nodup
      obtain ⟨chamadas, same, _⟩ | ⟨i, agora, empate, c, rfl, _, mudanca, same, _⟩ :=
        step_cases textos b acao
      · rw [same]
        exact ⟨ordem, chaves⟩
      · rw [same]
        refine ⟨?_, mudanca.chaves chaves⟩
        change (b.avancar textos c agora empate).1.db.EmOrdem
        rwa [mudanca.db_eq]

/-- A step leaves no begun check-in without a registration exactly when it takes nobody with one out
and delivers to nobody who is out. -/
theorem semOrfaos_noDia (acao : AcaoDoDia) (ordem : b.db.EmOrdem)
    (chaves : (b.checkins.map CheckinRow.chave).Nodup) (owned : b.SemOrfaos) :
    (b.noDia quando textos acao).SemOrfaos ↔ b.ComInscricao quando textos acao := by
  cases acao with
  | inscricao acao => exact semOrfaos_iff.trans (semOrfaos_inscrevendo ordem owned acao)
  | balcao acao =>
      change (b.step textos acao).SemOrfaos ↔ ∀ userId eventId,
        b.feito? textos acao = some (.entregou, userId, eventId) → b.inscrito userId eventId = true
      obtain ⟨chamadas, same, nothing, _⟩ | ⟨i, agora, empate, c, rfl, _, mudanca, same, made⟩ :=
        step_cases textos b acao
      · rw [same, nothing]
        exact ⟨fun _ _ _ made => (Option.some_ne_none _ made.symm).elim, fun _ => owned⟩
      · have kept : ∀ u e, (b.step textos (.avancar i agora empate)).inscrito u e =
            b.inscrito u e := by
          intro u e
          rw [same]
          unfold inscrito
          simp only [mudanca.db_eq]
        have rows : (b.step textos (.avancar i agora empate)).checkins =
            (b.avancar textos c agora empate).1.checkins := by rw [same]
        unfold SemOrfaos
        simp only [rows, kept, made, Option.map_eq_some_iff]
        constructor
        · rintro owned' userId eventId ⟨⟨f, u⟩, feito, eq⟩
          cases eq
          obtain ⟨row, mem, key, begun⟩ := mudanca.entregou feito
          have registered := owned' row mem begun
          rwa [(Prod.mk.inj key).1, (Prod.mk.inj key).2] at registered
        · intro delivered row mem begun
          rcases mudanca.begun chaves mem begun with ⟨r, there, key, before⟩ | ⟨feito, event⟩
          · have registered := owned r there before
            rwa [(Prod.mk.inj key).1, (Prod.mk.inj key).2] at registered
          · exact delivered _ _ ⟨_, feito, by rw [event]⟩

/-- Along every day, the numbers describe the list exactly as long as nobody with a begun check-in
leaves the event and no badge goes to somebody who has left. -/
theorem descreve_run_iff (quando : Instant → String) (textos : TextosDoBalcao) (b : Balcao)
    (ordem : b.db.EmOrdem) (semCheckins : b.checkins = []) (acoes : List AcaoDoDia) :
    Always (noDia quando textos) (Descreve textos) b acoes ↔
      EachStep (noDia quando textos) (ComInscricao quando textos) b acoes := by
  have start : b.EmDia := by
    refine ⟨ordem, by simp [semCheckins], fun r mem => ?_⟩
    rw [semCheckins] at mem
    cases mem
  refine always_iff_eachStep_of_invariant (I := EmDia) ?_ ?_ ?_ start
  · intro b emDia
    exact (descreve_iff textos emDia.chaves).mpr emDia.semOrfaos
  · intro b acao emDia guard
    obtain ⟨ordem, checkins⟩ := chaves_noDia quando textos acao emDia.ordem
      emDia.checkins
    exact ⟨ordem, checkins, (semOrfaos_noDia acao emDia.ordem emDia.checkins emDia.semOrfaos).mpr
      guard⟩
  · intro b acao emDia described
    obtain ⟨ordem, checkins⟩ := chaves_noDia quando textos acao emDia.ordem
      emDia.checkins
    exact (semOrfaos_noDia acao emDia.ordem emDia.checkins emDia.semOrfaos).mp
      ((descreve_iff textos ⟨ordem.chaves, checkins⟩).mp described)

end Balcao

/-! ### A badge, and then the person leaves -/

namespace UmaVaga

/-- The event with one place, before its day. -/
def balcao : Balcao where
  db := vazio
  desligados := []
  bedrooms := []
  bedroomsOnUsers := []
  checkins := []
  proximoQuarto := 50
  chamadas := []

/-- The first person registers, and gets her badge. -/
def entrega : List AcaoDoDia :=
  [.inscricao (inscrever 1 7), .balcao (DoisInscritos.pedir (.deliverBadge 1)),
    .balcao (DoisInscritos.passo 0), .balcao (DoisInscritos.passo 0)]

/-- She is removed from the event. -/
def saida : AcaoDoDia := .inscricao (.removeUserFromEvent 1 5 7)

end UmaVaga

namespace Balcao

theorem emOrdem_vazio : UmaVaga.vazio.EmOrdem :=
  emOrdem_iff.mpr ⟨comChaves_vazio, lotacao_vazio⟩

theorem descreve_run_entrega :
    Always (noDia UmaVaga.quando DoisInscritos.textos) (Descreve DoisInscritos.textos)
      UmaVaga.balcao UmaVaga.entrega := by
  apply (descreve_run_iff UmaVaga.quando DoisInscritos.textos UmaVaga.balcao emOrdem_vazio rfl
    UmaVaga.entrega).mpr
  refine ⟨trivial, ?_, ?_, ?_, trivial⟩
  · intro userId eventId made
    cases made
  · intro userId eventId made
    cases made
  · intro userId eventId made
    cases made
    decide

/-- After she has left, `stats` still counts her badge and the list does not have her. -/
theorem not_descreve_run :
    ¬ ∀ (b : Balcao) (acoes : List AcaoDoDia), b.db.EmOrdem → b.checkins = [] →
      Always (noDia UmaVaga.quando DoisInscritos.textos) (Descreve DoisInscritos.textos)
        b acoes := by
  intro all
  have described := (all UmaVaga.balcao (UmaVaga.entrega ++ [UmaVaga.saida]) emOrdem_vazio rfl).last
  have queued := (described 5).2.1
  rw [naLista_eq] at queued
  revert queued
  decide

end Balcao

end IccvBackend
