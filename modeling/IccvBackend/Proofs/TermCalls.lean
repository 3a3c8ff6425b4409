/-
Module: IccvBackend.Proofs.TermCalls
Purpose: With several terms sent and reviewed at once, what is approved is the term that was read,
  and it is asked of who needs it: exactly when no call writes on a registration that changed.
Trusted boundary: none
Main exports: AprovadoComOLido, Database.ComCadastros, Menores.GravaSobreOLido, termos_run_iff
-/
import IccvBackend.Event.TermCalls
import IccvBackend.Proofs.Minors

namespace IccvBackend

open Lib

/-! ### The law -/

/-- The term that the last approval of each registration had read. -/
abbrev Aprovacoes := Id × Id → Option String

/-- An approved registration has a term, and it is the one that was read when it was approved. -/
def AprovadoComOLido (db : Database) (aprovacoes : Aprovacoes) : Prop :=
  ∀ row ∈ db.eventOnUsers, row.minorApprovalStatus = .approved →
    ∃ url, url ≠ "" ∧ aprovacoes row.chave = some url ∧ row.signedTermUrl = some url

/-- Every registration is of a user in an event (the foreign keys of the table). -/
def Database.ComCadastros (db : Database) : Prop :=
  ∀ row ∈ db.eventOnUsers, (∃ user, db.catalogue.user? row.userId = some user) ∧
    ∃ event, db.catalogue.event? row.eventId = some event

namespace Menores

/-- The decisions of age, and the approvals. -/
abbrev Historia := Decisoes × Aprovacoes

/-- What a step adds to the history. -/
def anotar (amb : Edicoes.Ambiente) (h : Historia) (t : Menores) (a : Acao) (depois : Menores) :
    Historia :=
  match a with
  | .inscricao acao => (h.1.anotar amb t.db (.inscricao acao) depois.db, h.2)
  | .editarEvento id dados => (h.1.anotar amb t.db (.editarEvento id dados) depois.db, h.2)
  | .gravar k _ =>
      match t.chamadas[k]? with
      | some (.revisando userId eventId body _ lido) =>
          (h.1, if body.approved then Function.update h.2 (userId, eventId) lido else h.2)
      | _ => h
  | _ => h

/-- A term or a review is written on a registration that still requires it, and an approval on the
term it read. -/
def GravaSobreOLido (t : Menores) : Acao → Prop
  | .gravar k _ =>
      (∀ userId eventId url, t.chamadas[k]? = some (.enviando userId eventId url) →
        ∀ row ∈ t.db.eventOnUsers, row.chave = (userId, eventId) →
          row.minorApprovalStatus ≠ .notRequired) ∧
      ∀ userId eventId body requesterId lido,
        t.chamadas[k]? = some (.revisando userId eventId body requesterId lido) →
          ∀ row ∈ t.db.eventOnUsers, row.chave = (userId, eventId) →
            row.minorApprovalStatus ≠ .notRequired ∧ (body.approved → row.signedTermUrl = lido)
  | _ => True

/-- An approval in flight has read a term. -/
def LeuTermo (t : Menores) : Prop :=
  ∀ userId eventId body requesterId lido,
    .revisando userId eventId body requesterId lido ∈ t.chamadas → body.approved = true →
      ∃ url, url ≠ "" ∧ lido = some url

structure EmDia (t : Menores) (h : Historia) : Prop where
  decidido : t.db.Decidido h.1
  aprovado : AprovadoComOLido t.db h.2
  cadastros : t.db.ComCadastros
  leu : t.LeuTermo

end Menores

/-! ### Approved registrations that an operation leaves -/

/-- The part of a registration that an approval is about. -/
def EventOnUsers.termo (row : EventOnUsers) :
    (Id × Id) × MinorApprovalStatus × Option String :=
  (row.chave, row.minorApprovalStatus, row.signedTermUrl)

/-- What is approved afterwards was approved before, with the same term. -/
def SoAprovadas (antes depois : List EventOnUsers) : Prop :=
  ∀ row ∈ depois, row.minorApprovalStatus = .approved → ∃ old ∈ antes, old.termo = row.termo

namespace SoAprovadas

variable {a b c : List EventOnUsers}

theorem refl (rows : List EventOnUsers) : SoAprovadas rows rows :=
  fun row mem _ => ⟨row, mem, rfl⟩

theorem trans (ab : SoAprovadas a b) (bc : SoAprovadas b c) : SoAprovadas a c := by
  intro row mem approved
  obtain ⟨middle, mem_middle, same⟩ := bc row mem approved
  have status : middle.minorApprovalStatus = .approved :=
    (congrArg (fun termo => termo.2.1) same).trans approved
  obtain ⟨old, mem_old, same_old⟩ := ab middle mem_middle status
  exact ⟨old, mem_old, same_old.trans same⟩

theorem filter (rows : List EventOnUsers) (p : EventOnUsers → Bool) :
    SoAprovadas rows (rows.filter p) :=
  fun row mem _ => ⟨row, List.mem_of_mem_filter mem, rfl⟩

theorem map (rows : List EventOnUsers) {f : EventOnUsers → EventOnUsers}
    (same : ∀ row, (f row).minorApprovalStatus = .approved → row.termo = (f row).termo) :
    SoAprovadas rows (rows.map f) := by
  intro row mem approved
  obtain ⟨old, mem_old, rfl⟩ := List.mem_map.mp mem
  exact ⟨old, mem_old, same old approved⟩

/-- The law of approvals is about what is approved. -/
theorem aprovado {db depois : Database} {aprovacoes : Aprovacoes}
    (old : SoAprovadas db.eventOnUsers depois.eventOnUsers)
    (read : AprovadoComOLido db aprovacoes) : AprovadoComOLido depois aprovacoes := by
  intro row mem approved
  obtain ⟨antes, mem_antes, same⟩ := old row mem approved
  simp only [EventOnUsers.termo, Prod.mk.injEq] at same
  obtain ⟨url, some_url, noted, term⟩ := read antes mem_antes (same.2.1.trans approved)
  exact ⟨url, some_url, same.1 ▸ noted, same.2.2 ▸ term⟩

end SoAprovadas

section Registrations

variable {db depois : Database} {request : RegistrationRequest}

theorem minorApprovalStatusFor_ne_approved (user : User) (event : Event) :
    minorApprovalStatusFor user event ≠ .approved := by
  unfold minorApprovalStatusFor
  split <;> nofun

/-- A new registration is not approved. -/
theorem soAprovadas_inscrever (db : Database) (request : RegistrationRequest)
    {minor : MinorApprovalStatus} (pending : minor ≠ .approved) (role : RolesRegistration) :
    SoAprovadas db.eventOnUsers (db.inscrever request minor role).eventOnUsers := by
  have upserted : SoAprovadas db.eventOnUsers (db.upsertRegistration request.userId
      request.eventId minor
      (if request.aceitouTermo then some request.agora else none)).eventOnUsers := by
    unfold Database.upsertRegistration
    split
    · refine .map _ fun row _ => ?_
      split <;> rfl
    · intro row mem approved
      rcases List.mem_append.mp mem with old | new
      · exact ⟨row, old, rfl⟩
      · obtain rfl := List.mem_singleton.mp new
        exact absurd approved pending
  refine upserted.trans (.map _ fun row _ => ?_)
  split <;> rfl

theorem soAprovadas_foldl {minor : MinorApprovalStatus} (pending : minor ≠ .approved)
    (count : Id → Nat) (roles : List (GroupRoles × RolesRegistration)) :
    ∀ state : Database × List (Id × ResultType), SoAprovadas state.1.eventOnUsers
      (roles.foldl (registerRole request minor count) state).1.eventOnUsers := by
  induction roles with
  | nil => exact fun state => .refl _
  | cons role roles ih =>
      intro state
      refine .trans ?_ (ih (registerRole request minor count state role))
      unfold registerRole
      split
      · exact .refl _
      · exact soAprovadas_inscrever state.1 request pending role.2

theorem soAprovadas_registrou {user : User} {event : Event}
    {result : Database × List (Id × ResultType)}
    (registrou : Registrou db request user event result) :
    SoAprovadas db.eventOnUsers result.1.eventOnUsers := by
  rw [registrou.result]
  exact soAprovadas_foldl (minorApprovalStatusFor_ne_approved user event) _ _ (db, [])

/-- No operation on registrations approves anything. -/
theorem soAprovadas_executar {quando : Instant → String} {acao : AcaoDeInscricao}
    (ok : acao.executar quando db = .ok depois) :
    SoAprovadas db.eventOnUsers depois.eventOnUsers := by
  cases acao with
  | registerUserInEvent request =>
      obtain ⟨result, done, rfl⟩ := except_map_eq_ok_iff.mp ok
      obtain ⟨user, event, registrou⟩ := registerUserInEvent_ok done
      exact soAprovadas_registrou registrou
  | updateUserFromEvent userId eventId roles agora =>
      obtain ⟨result, edited, rfl⟩ := except_map_eq_ok_iff.mp ok
      obtain ⟨_, ⟨user, event, registrou⟩, _⟩ := updateUserFromEvent_ok edited
      exact .trans (.filter _ _) (soAprovadas_registrou registrou)
  | movedUserFromWaitlistToEvent userId userRemovedId eventId role agora =>
      obtain ⟨result, moved, rfl⟩ := except_map_eq_ok_iff.mp ok
      obtain ⟨_, sai, entry, pair, rfl, rfl, _, _, ⟨user, event, registrou⟩, _⟩ :=
        movedUserFromWaitlistToEvent_ok moved
      refine .trans (.trans (.map _ fun row _ => ?_) (.filter _ _))
        (soAprovadas_registrou registrou)
      split <;> rfl
  | removeUserFromEvent idUser idEvent role =>
      unfold AcaoDeInscricao.executar removeUserFromEvent at ok
      simp only [bind_eq_ok_iff, pure_eq_ok_iff] at ok
      obtain ⟨_, _, rfl⟩ := ok
      exact .filter _ _
  | removeUserFromWaitlist idUser idEvent role =>
      unfold AcaoDeInscricao.executar removeUserFromWaitlist at ok
      simp only [bind_eq_ok_iff, orFail_eq_ok_iff, pure_eq_ok_iff] at ok
      obtain ⟨entry, _, rfl⟩ := ok
      exact .refl _

/-- Reclassifying approves nothing, and what it leaves approved it left alone. -/
theorem termo_reclassificar {birthday inicioDoEvento : CalendarDay} {limite : Int}
    {row : EventOnUsers}
    (approved : (row.reclassificar birthday inicioDoEvento limite).minorApprovalStatus =
      .approved) :
    row.termo = (row.reclassificar birthday inicioDoEvento limite).termo := by
  unfold EventOnUsers.reclassificar at approved ⊢
  dsimp only at approved ⊢
  split at approved
  · cases approved
  · split at approved
    · cases approved
    · rw [if_neg ‹_›, if_neg ‹_›]

theorem soAprovadas_editarEvento {textos : Textos} {id : Id} {dados : DadosDoEvento}
    (ok : updateDadosDoEvento textos db id dados = .ok depois) :
    SoAprovadas db.eventOnUsers depois.eventOnUsers := by
  obtain ⟨event, _, _, _, rows⟩ := updateDadosDoEvento_ok ok
  rw [rows]
  split
  · refine .map _ fun row approved => ?_
    split at approved
    · next here =>
        rw [if_pos here]
        split at approved
        · exact termo_reclassificar approved
        · rfl
    · next other => rw [if_neg other]
  · exact .refl _

end Registrations

/-! ### The operations that are one transaction -/

section Operations

variable {amb : Edicoes.Ambiente} {db depois : Database}

theorem comCadastros_inscricao {acao : AcaoDeInscricao} (known : db.ComCadastros)
    (ok : acao.executar amb.quando db = .ok depois) : depois.ComCadastros := by
  obtain ⟨catalogue, rows⟩ := executar_analise ok
  intro row mem
  rw [catalogue]
  rcases rows row mem with ⟨old, mem_old, same⟩ | ⟨_, user, event, user_found, event_found, _⟩
  · obtain ⟨first, mem_first, same_first⟩ := soAntigas_preparo acao old mem_old
    have whole := same_first.trans same
    simp only [EventOnUsers.analise, EventOnUsers.chave, Prod.mk.injEq] at whole
    obtain ⟨⟨user_eq, event_eq⟩, _⟩ := whole
    exact user_eq ▸ event_eq ▸ known first mem_first
  · exact ⟨⟨user, user_found⟩, event, event_found⟩

theorem comCadastros_editarEvento {id : Id} {dados : DadosDoEvento} (known : db.ComCadastros)
    (ok : updateDadosDoEvento amb.textos db id dados = .ok depois) : depois.ComCadastros := by
  obtain ⟨event, _, users, events, rows⟩ := updateDadosDoEvento_ok ok
  intro row mem
  have there : ∃ old ∈ db.eventOnUsers, old.chave = row.chave := by
    rw [rows] at mem
    split at mem
    · obtain ⟨old, mem_old, same, _⟩ := mem_reclassificarMenores mem
      exact ⟨old, mem_old, same⟩
    · exact ⟨row, mem, rfl⟩
  obtain ⟨old, mem_old, same⟩ := there
  obtain ⟨user_eq, event_eq⟩ := Prod.mk.inj same
  obtain ⟨⟨user, user_found⟩, antes, event_found⟩ := known old mem_old
  refine ⟨⟨user, ?_⟩, ?_⟩
  · rw [Catalogue.user?, users, ← user_eq]
    exact user_found
  · rw [events, ← event_eq, event_found]
    exact ⟨_, rfl⟩

theorem comCadastros_editarNascimento (known : db.ComCadastros) (userId : Id)
    (birthday : CalendarDay) : (updateBirthday db userId birthday).ComCadastros := by
  intro row mem
  obtain ⟨⟨user, found⟩, event_found⟩ := known row mem
  refine ⟨?_, event_found⟩
  unfold updateBirthday
  rw [user?_modifyUser db userId (f := fun user => { user with birthday := birthday })
    fun _ => rfl, found]
  exact ⟨_, rfl⟩

end Operations

/-! ### The writes of the calls -/

section Writes

variable {db : Database} {userId eventId : Id} {f : EventOnUsers → EventOnUsers}

theorem mem_modifyRegistration {row : EventOnUsers}
    (mem : row ∈ (db.modifyRegistration userId eventId f).eventOnUsers) :
    ∃ old ∈ db.eventOnUsers, (old.chave = (userId, eventId) ∧ row = f old) ∨
      (old.chave ≠ (userId, eventId) ∧ row = old) := by
  obtain ⟨old, mem_old, rfl⟩ := List.mem_map.mp mem
  refine ⟨old, mem_old, ?_⟩
  by_cases here : old.userId = userId ∧ old.eventId = eventId
  · exact .inl ⟨Prod.ext here.1 here.2, by simp [here]⟩
  · refine .inr ⟨fun same => here (Prod.mk.inj same), if_neg ?_⟩
    simpa using here

theorem mem_modifyRegistration_of_mem {row : EventOnUsers} (mem : row ∈ db.eventOnUsers)
    (here : row.chave = (userId, eventId)) :
    f row ∈ (db.modifyRegistration userId eventId f).eventOnUsers := by
  refine List.mem_map.mpr ⟨row, mem, ?_⟩
  obtain ⟨user_eq, event_eq⟩ := Prod.mk.inj here
  simp [user_eq, event_eq]

theorem comCadastros_modifyRegistration (known : db.ComCadastros)
    (same_key : ∀ row, (f row).chave = row.chave) :
    (db.modifyRegistration userId eventId f).ComCadastros := by
  intro row mem
  obtain ⟨old, mem_old, ⟨_, rfl⟩ | ⟨_, rfl⟩⟩ := mem_modifyRegistration mem
  · obtain ⟨user_eq, event_eq⟩ := Prod.mk.inj (same_key old)
    exact user_eq ▸ event_eq ▸ known old mem_old
  · exact known _ mem_old

/-- A status that requires the term is written exactly where one did. -/
theorem decidido_modifyRegistration_iff {decisoes : Decisoes} (decidido : db.Decidido decisoes)
    (known : db.ComCadastros)
    (same_key : ∀ row, (f row).userId = row.userId ∧ (f row).eventId = row.eventId)
    (still : ∀ row, (f row).minorApprovalStatus ≠ .notRequired) :
    (db.modifyRegistration userId eventId f).Decidido decisoes ↔
      ∀ row ∈ db.eventOnUsers, row.chave = (userId, eventId) →
        row.minorApprovalStatus ≠ .notRequired := by
  constructor
  · intro after row mem here
    obtain ⟨⟨user, user_found⟩, event, event_found⟩ := known row mem
    obtain ⟨decisao, noted, side⟩ := decidido row mem user event user_found event_found
    have chave : (f row).chave = row.chave := Prod.ext (same_key row).1 (same_key row).2
    obtain ⟨decisao', noted', side'⟩ := after (f row) (mem_modifyRegistration_of_mem mem here) user
      event (by rw [(same_key row).1]; exact user_found)
        (by rw [(same_key row).2]; exact event_found)
    rw [chave, noted] at noted'
    obtain rfl := Option.some.inj noted'
    exact side.mpr (side'.mp (still row))
  · intro required
    cases found : db.registration? userId eventId with
    | none =>
        have nobody := registration?_eq_none.mp found
        intro row mem user event user_found event_found
        obtain ⟨old, mem_old, ⟨here, _⟩ | ⟨_, rfl⟩⟩ := mem_modifyRegistration mem
        · exact absurd here (nobody old mem_old)
        · exact decidido row mem_old user event user_found event_found
    | some registration =>
        refine decidido_modifyRegistration decidido found ?_ same_key still
        refine required registration (List.mem_of_find?_eq_some found) ?_
        have key : registration.userId = userId ∧ registration.eventId = eventId := by
          simpa using List.find?_some found
        exact Prod.ext key.1 key.2

end Writes

namespace Menores

variable {amb : Edicoes.Ambiente} {t : Menores} {h : Historia}

/-! ### One step -/

theorem LeuTermo.set (read : t.LeuTermo) (k : Nat) (db : Database) :
    LeuTermo ⟨db, t.chamadas.set k .fim⟩ := by
  intro userId eventId body requesterId lido mem approved
  rcases List.mem_or_eq_of_mem_set mem with old | same
  · exact read userId eventId body requesterId lido old approved
  · cases same

theorem EmDia.iniciar (day : EmDia t h) {c : ChamadaDoTermo}
    (leu : ∀ userId eventId body requesterId lido,
      c = .revisando userId eventId body requesterId lido → body.approved = true →
        ∃ url, url ≠ "" ∧ lido = some url) : EmDia (t.iniciar c) h := by
  refine ⟨day.decidido, day.aprovado, day.cadastros,
    fun userId eventId body requesterId lido mem approved => ?_⟩
  rcases List.mem_append.mp mem with old | new
  · exact day.leu userId eventId body requesterId lido old approved
  · exact leu userId eventId body requesterId lido (List.mem_singleton.mp new).symm approved

theorem EmDia.comOperacao (day : EmDia t h) {acao : AcaoDoTermo}
    (old : ∀ depois, acao.executar amb t.db = .ok depois →
      SoAprovadas t.db.eventOnUsers depois.eventOnUsers ∧ depois.ComCadastros) :
    EmDia (t.comOperacao amb acao)
      (h.1.anotar amb t.db acao (t.comOperacao amb acao).db, h.2) := by
  have decided : (t.db.comTermos amb acao).Decidido
      (h.1.anotar amb t.db acao (t.db.comTermos amb acao)) :=
    decidido_comTermos day.decidido acao
  have kept : AprovadoComOLido (t.db.comTermos amb acao) h.2 ∧
      (t.db.comTermos amb acao).ComCadastros := by
    unfold Database.comTermos
    split
    · next depois ok => exact ⟨(old depois ok).1.aprovado day.aprovado, (old depois ok).2⟩
    · exact ⟨day.aprovado, day.cadastros⟩
  exact ⟨decided, kept.1, kept.2, day.leu⟩

/-- A term that is sent again is approved of nobody. -/
theorem emDia_gravar_enviando_iff (day : EmDia t h) {k : Nat} {userId eventId : Id} {url : String}
    (here : t.chamadas[k]? = some (.enviando userId eventId url)) (agora : Instant) :
    (t.gravar amb k agora).db.Decidido h.1 ∧ AprovadoComOLido (t.gravar amb k agora).db h.2 ↔
      ∀ row ∈ t.db.eventOnUsers, row.chave = (userId, eventId) →
        row.minorApprovalStatus ≠ .notRequired := by
  simp only [gravar, here]
  rw [decidido_modifyRegistration_iff (f := EventOnUsers.comTermo url) day.decidido day.cadastros
    (fun _ => ⟨rfl, rfl⟩) fun _ => MinorApprovalStatus.noConfusion]
  refine and_iff_left fun row mem approved => ?_
  obtain ⟨old, mem_old, ⟨_, rfl⟩ | ⟨_, rfl⟩⟩ := mem_modifyRegistration mem
  · cases approved
  · exact day.aprovado row mem_old approved

theorem status_ne_notRequired (body : GuardianApprovalDto) : body.status ≠ .notRequired := by
  unfold GuardianApprovalDto.status
  split <;> nofun

theorem emDia_gravar_revisando_iff (day : EmDia t h) {k : Nat} {userId eventId : Id}
    {body : GuardianApprovalDto} {requesterId : Option Id} {lido : Option String}
    (here : t.chamadas[k]? = some (.revisando userId eventId body requesterId lido))
    (agora : Instant) :
    (t.gravar amb k agora).db.Decidido h.1 ∧ AprovadoComOLido (t.gravar amb k agora).db
        (if body.approved then Function.update h.2 (userId, eventId) lido else h.2) ↔
      ∀ row ∈ t.db.eventOnUsers, row.chave = (userId, eventId) →
        row.minorApprovalStatus ≠ .notRequired ∧ (body.approved → row.signedTermUrl = lido) := by
  simp only [gravar, here]
  rw [decidido_modifyRegistration_iff
    (f := EventOnUsers.revisado amb.textos body requesterId agora) day.decidido day.cadastros
    (fun _ => ⟨rfl, rfl⟩) fun _ => status_ne_notRequired body]
  constructor
  · rintro ⟨required, after⟩ row mem key
    refine ⟨required row mem key, fun approved => ?_⟩
    have status : (row.revisado amb.textos body requesterId agora).minorApprovalStatus =
        .approved := if_pos approved
    obtain ⟨url, _, noted, term⟩ := after _ (mem_modifyRegistration_of_mem mem key) status
    rw [if_pos approved] at noted
    have chave : (row.revisado amb.textos body requesterId agora).chave = (userId, eventId) := key
    rw [chave, Function.update_self] at noted
    exact term.trans noted.symm
  · intro guard
    refine ⟨fun row mem key => (guard row mem key).1, fun row mem approved => ?_⟩
    obtain ⟨old, mem_old, ⟨key, rfl⟩ | ⟨other, rfl⟩⟩ := mem_modifyRegistration mem
    · -- approved now, with the term that was read
      have chave : (old.revisado amb.textos body requesterId agora).chave = (userId, eventId) := key
      have said : body.approved = true := by
        have status : body.status = .approved := approved
        unfold GuardianApprovalDto.status at status
        split at status
        · assumption
        · cases status
      obtain ⟨url, some_url, rfl⟩ := day.leu userId eventId body requesterId lido
        (List.mem_of_getElem? here) said
      refine ⟨url, some_url, ?_, (guard old mem_old key).2 said⟩
      rw [if_pos said, chave, Function.update_self]
    · -- of another registration
      obtain ⟨url, some_url, noted, term⟩ := day.aprovado row mem_old approved
      refine ⟨url, some_url, ?_, term⟩
      split
      · rw [Function.update_of_ne other]
        exact noted
      · exact noted

/-- What the history and the law have after a write. -/
theorem leis_gravar_iff (day : EmDia t h) (k : Nat) (agora : Instant) :
    (t.gravar amb k agora).db.Decidido (anotar amb h t (.gravar k agora) (t.gravar amb k agora)).1 ∧
        AprovadoComOLido (t.gravar amb k agora).db
          (anotar amb h t (.gravar k agora) (t.gravar amb k agora)).2 ↔
      t.GravaSobreOLido (.gravar k agora) := by
  cases here : t.chamadas[k]? with
  | none => simp [GravaSobreOLido, anotar, gravar, here, day.decidido, day.aprovado]
  | some c =>
      cases c with
      | enviando userId eventId url =>
          simp only [GravaSobreOLido, anotar, here]
          rw [emDia_gravar_enviando_iff day here agora]
          simp
      | revisando userId eventId body requesterId lido =>
          simp only [GravaSobreOLido, anotar, here]
          rw [emDia_gravar_revisando_iff day here agora]
          simp only [reduceCtorEq, Option.some.injEq, false_implies, implies_true, true_and,
            ChamadaDoTermo.revisando.injEq]
          constructor
          · rintro guard _ _ _ _ _ ⟨rfl, rfl, rfl, rfl, rfl⟩
            exact guard
          · intro guard
            exact guard userId eventId body requesterId lido ⟨rfl, rfl, rfl, rfl, rfl⟩
      | fim => simp [GravaSobreOLido, anotar, gravar, here, day.decidido, day.aprovado]

theorem lerParaRevisar_ok {textos : Textos} {db : Database} {userId eventId : Id}
    {body : GuardianApprovalDto} {lido : Option String}
    (ok : lerParaRevisar textos db userId eventId body = .ok lido)
    (approved : body.approved = true) :
    ∃ url, url ≠ "" ∧ lido = some url := by
  simp only [lerParaRevisar, bind_eq_ok_iff, orFail_eq_ok_iff, failIf_eq_ok_iff,
    pure_eq_ok_iff] at ok
  obtain ⟨registration, _, _, _, _, has_term, _, _, rfl⟩ := ok
  cases term : registration.signedTermUrl with
  | none => exact absurd ⟨approved, by rw [term]; rfl⟩ has_term
  | some url => exact ⟨url, fun empty => has_term ⟨approved, by rw [term]; exact empty⟩, rfl⟩

theorem cadastros_gravar (day : EmDia t h) (k : Nat) (agora : Instant) :
    (t.gravar amb k agora).db.ComCadastros ∧ (t.gravar amb k agora).LeuTermo := by
  unfold gravar
  split
  · exact ⟨comCadastros_modifyRegistration day.cadastros fun _ => rfl, day.leu.set k _⟩
  · exact ⟨comCadastros_modifyRegistration day.cadastros fun _ => rfl, day.leu.set k _⟩
  · exact ⟨day.cadastros, day.leu⟩

/-- Nothing but a write may break the law. -/
theorem EmDia.outra (day : EmDia t h) {a : Acao} (other : ∀ k agora, a ≠ .gravar k agora) :
    EmDia (t.agir amb a) (anotar amb h t a (t.agir amb a)) := by
  cases a with
  | inscricao acao =>
      exact day.comOperacao fun depois ok =>
        ⟨soAprovadas_executar ok, comCadastros_inscricao day.cadastros ok⟩
  | editarEvento id dados =>
      exact day.comOperacao fun depois ok =>
        ⟨soAprovadas_editarEvento ok, comCadastros_editarEvento day.cadastros ok⟩
  | editarNascimento userId birthday =>
      have kept : ∀ depois, (AcaoDoTermo.editarNascimento userId birthday).executar amb t.db =
          .ok depois → SoAprovadas t.db.eventOnUsers depois.eventOnUsers ∧ depois.ComCadastros := by
        intro depois ok
        obtain rfl := pure_eq_ok_iff.mp ok
        exact ⟨.refl _, comCadastros_editarNascimento day.cadastros userId birthday⟩
      exact day.comOperacao kept
  | uploadGuardianTerm userId eventId url =>
      simp only [agir, anotar]
      split
      · exact day.iniciar nofun
      · exact day
  | reviewGuardianApproval userId eventId body requesterId =>
      simp only [agir, anotar]
      split
      · next lido ok =>
          refine day.iniciar fun _ _ _ _ _ same approved => ?_
          obtain ⟨rfl, rfl, rfl, rfl, rfl⟩ := ChamadaDoTermo.revisando.inj same
          exact lerParaRevisar_ok ok approved
      · exact day
  | gravar k agora => exact absurd rfl (other k agora)

/-- The guard is what one step needs. -/
theorem emDia_agir (s : Menores × Historia) (a : Acao) (day : EmDia s.1 s.2)
    (guard : s.1.GravaSobreOLido a) :
    EmDia (s.1.agir amb a) (anotar amb s.2 s.1 a (s.1.agir amb a)) := by
  cases a with
  | gravar k agora =>
      obtain ⟨decidido, aprovado⟩ := (leis_gravar_iff day k agora).mpr guard
      obtain ⟨cadastros, leu⟩ := cadastros_gravar day k agora
      exact ⟨decidido, aprovado, cadastros, leu⟩
  | _ => exact day.outra nofun

end Menores

/-! ### Whole runs -/

open Menores

/-- In every interleaving of terms sent and reviewed with registrations and edits, an approved
registration has the term that was read to approve it and the term is asked of who needs it, exactly
in the runs where no term or review is written on a registration that no longer requires one, and no
approval on another term than it read. -/
theorem termos_run_iff (amb : Edicoes.Ambiente) {db : Database} {decisoes : Decisoes}
    {aprovacoes : Aprovacoes} (decidido : db.Decidido decisoes)
    (aprovado : AprovadoComOLido db aprovacoes) (cadastros : db.ComCadastros)
    (acoes : List Menores.Acao) :
    Always (withHistory (Menores.agir amb) (anotar amb))
        (fun s => s.1.db.Decidido s.2.1 ∧ AprovadoComOLido s.1.db s.2.2)
        (⟨db, []⟩, decisoes, aprovacoes) acoes ↔
      EachStep (withHistory (Menores.agir amb) (anotar amb)) (fun s a => s.1.GravaSobreOLido a)
        (⟨db, []⟩, decisoes, aprovacoes) acoes := by
  refine always_iff_eachStep_of_invariant (I := fun s : Menores × Historia => EmDia s.1 s.2)
    (fun _ day => ⟨day.decidido, day.aprovado⟩) (fun s a day guard => emDia_agir s a day guard)
    (fun s a day after => ?_)
    ⟨decidido, aprovado, cadastros, fun _ _ _ _ _ mem => absurd mem List.not_mem_nil⟩
  cases a with
  | gravar k agora => exact (leis_gravar_iff day k agora).mp after
  | _ => trivial

/-! ### A term that comes during the review -/

namespace OutraData

/-- A participant of fifteen years sends the term, and it is reviewed while another one comes. -/
def outroTermo : List Menores.Acao :=
  [.inscricao (UmaVaga.inscrever 1 7), .uploadGuardianTerm 1 5 "data:,a", .gravar 0 0,
    .reviewGuardianApproval 1 5 ⟨true, none⟩ none, .uploadGuardianTerm 1 5 "data:,b", .gravar 2 1,
    .gravar 1 2]

/-- The second term is approved, and the first was read. -/
theorem aprovadoSemLer :
    ¬ AprovadoComOLido
      (runFrom (withHistory (Menores.agir amb) (anotar amb))
        (⟨vazio, []⟩, (fun _ => none), fun _ => none) outroTermo).1.db
      (runFrom (withHistory (Menores.agir amb) (anotar amb))
        (⟨vazio, []⟩, (fun _ => none), fun _ => none) outroTermo).2.2 := by
  intro law
  have lido : (runFrom (withHistory (Menores.agir amb) (anotar amb))
      (⟨vazio, []⟩, (fun _ => none), fun _ => none) outroTermo).2.2 (1, 5) = some "data:,a" := by
    decide +kernel
  have aprovada : ∃ row ∈ (runFrom (withHistory (Menores.agir amb) (anotar amb))
      (⟨vazio, []⟩, (fun _ => none), fun _ => none) outroTermo).1.db.eventOnUsers,
      row.minorApprovalStatus = .approved ∧ row.chave = (1, 5) ∧
        row.signedTermUrl = some "data:,b" := by
    decide +kernel
  obtain ⟨row, mem, approved, of_1, termo⟩ := aprovada
  obtain ⟨url, _, same, here⟩ := law row mem approved
  rw [of_1, lido] at same
  rw [termo, ← same] at here
  exact absurd here (by decide)

end OutraData

/-- In that run an approval is written on another term than it read. -/
theorem termos_run_iff_outraData :
    ¬ EachStep (withHistory (Menores.agir OutraData.amb) (anotar OutraData.amb))
      (fun s a => s.1.GravaSobreOLido a) (⟨OutraData.vazio, []⟩, (fun _ => none), fun _ => none)
      OutraData.outroTermo := by
  intro guarda
  have always := (termos_run_iff OutraData.amb (fun _ mem => absurd mem List.not_mem_nil)
    (fun _ mem => absurd mem List.not_mem_nil) (fun _ mem => absurd mem List.not_mem_nil) _).mpr
    guarda
  exact OutraData.aprovadoSemLer always.last.2

end IccvBackend
