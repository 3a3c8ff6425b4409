/-
Module: IccvBackend.Proofs.RejectedEdits
Purpose: A rejected edit of an event changes nothing exactly when no group was created before the
  refusal and nothing fails after the first transaction.
Trusted boundary: none
Main exports: BancoDoEvento.EdicaoRecusada, BancoDoEvento.SemRestos,
  BancoDoEvento.edicaoRecusada_iff
-/
import IccvBackend.Event.Update
import IccvBackend.Proofs.Guards
import IccvBackend.Proofs.Seats

namespace IccvBackend

open Lib

/-! ### Groups of the form -/

section Grupos

variable (lidos : List GrupoLido)

/-- The window is right, and where the group is new the database inserts it. -/
def abreGrupo (inserido : Except Failure Unit) (grupo : GroupRoleDto) : Prop :=
  (janelaRecebida grupo).isOk = true ∧ (grupo.lido lidos = none → inserido.isOk = true)

/-- Nothing of the group is refused. -/
def aceitaGrupo (inserido perde : Except Failure Unit) (grupo : GroupRoleDto) : Prop :=
  abreGrupo lidos inserido grupo ∧
    (rolesDoGrupo perde (grupo.lido lidos) (((grupo.lido lidos).map GrupoLido.id).getD grupo.uuid)
      grupo).isOk = true

/-- The group at `k` is new and inserted, and those before it are accepted.  The first of the list
is the `i`-th of the form. -/
def criaGrupo (falha perde : Nat → Except Failure Unit) (i : Nat) (recebidos : List GroupRoleDto)
    (k : Nat) : Prop :=
  (∃ grupo, recebidos[k]? = some grupo ∧ grupo.lido lidos = none ∧
    abreGrupo lidos (falha (i + k)) grupo) ∧
    ∀ j < k, ∀ grupo, recebidos[j]? = some grupo →
      aceitaGrupo lidos (falha (i + j)) (perde (i + j)) grupo

variable {lidos} {falha perde : Nat → Except Failure Unit} {eventId : Id} {grupo : GroupRoleDto}
  {resto : List GroupRoleDto} {db : Database} {ops : List OperacaoDeEdicao}

/-- A group of the form that is opened: a known one leaves the tables as they are. -/
theorem abrirGrupo_ok (eventId : Id) (db : Database) {i : Nat}
    (abre : abreGrupo lidos (falha i) grupo) :
    ∃ aberto atualiza, abrirGrupo (falha i) eventId (grupo.lido lidos) grupo db =
        .ok (aberto, ((grupo.lido lidos).map GrupoLido.id).getD grupo.uuid, atualiza) ∧
      if grupo.lido lidos = none then
        aberto.catalogue.groups.length = db.catalogue.groups.length + 1
      else aberto = db := by
  obtain ⟨window, inserted⟩ := abre
  unfold abrirGrupo
  cases checked : janelaRecebida grupo with
  | error falhou =>
      rw [checked] at window
      cases window
  | ok janela =>
      cases known : grupo.lido lidos with
      | some lido =>
          refine ⟨db, _, rfl, ?_⟩
          rw [if_neg (Option.some_ne_none lido)]
      | none =>
          cases answer : falha i with
          | error falhou =>
              have fine := inserted known
              rw [answer] at fine
              cases fine
          | ok _ =>
              refine ⟨_, _, rfl, ?_⟩
              rw [if_pos rfl]
              simp [Database.createGroup]

theorem abrirGrupo_error (eventId : Id) (db : Database) {i : Nat}
    (refused : ¬abreGrupo lidos (falha i) grupo) :
    ∃ falhou, abrirGrupo (falha i) eventId (grupo.lido lidos) grupo db = .error falhou := by
  unfold abrirGrupo
  cases checked : janelaRecebida grupo with
  | error falhou => exact ⟨falhou, rfl⟩
  | ok janela =>
      cases known : grupo.lido lidos with
      | some lido =>
          exfalso
          apply refused
          constructor
          · rw [checked]
            rfl
          · intro absent
            rw [known] at absent
            cases absent
      | none =>
          cases answer : falha i with
          | error falhou => exact ⟨falhou, rfl⟩
          | ok _ =>
              exfalso
              apply refused
              constructor
              · rw [checked]
                rfl
              · intro _
                rw [answer]
                rfl

/-- The groups of the tables only grow while the form is read. -/
theorem length_groups_gravarGruposCom (i : Nat) :
    db.catalogue.groups.length ≤
      (gravarGruposCom falha perde eventId lidos i resto db ops).1.catalogue.groups.length := by
  induction resto generalizing i db ops with
  | nil => exact le_rfl
  | cons grupo resto ih =>
      unfold gravarGruposCom
      by_cases abre : abreGrupo lidos (falha i) grupo
      · obtain ⟨aberto, atualiza, opened, grown⟩ := abrirGrupo_ok eventId db abre
        have more : db.catalogue.groups.length ≤ aberto.catalogue.groups.length := by
          split at grown
          · omega
          · rw [grown]
        simp only [opened]
        cases rolesDoGrupo (perde i) (grupo.lido lidos)
            (((grupo.lido lidos).map GrupoLido.id).getD grupo.uuid) grupo with
        | error falhou => exact more
        | ok gravadas => exact more.trans (ih (i + 1))
      · obtain ⟨falhou, opened⟩ := abrirGrupo_error eventId db abre
        simp only [opened]
        exact le_rfl

theorem indice_succ (i k : Nat) : i + (k + 1) = i + 1 + k := by omega

theorem aceitaGrupos_cons (i : Nat) :
    (∀ k other, (grupo :: resto)[k]? = some other →
        aceitaGrupo lidos (falha (i + k)) (perde (i + k)) other) ↔
      aceitaGrupo lidos (falha i) (perde i) grupo ∧
        ∀ k other, resto[k]? = some other →
          aceitaGrupo lidos (falha (i + 1 + k)) (perde (i + 1 + k)) other := by
  constructor
  · intro every
    constructor
    · exact every 0 grupo rfl
    · intro k other there
      have accepted := every (k + 1) other there
      rwa [indice_succ] at accepted
  · rintro ⟨first, rest⟩ k other there
    cases k with
    | zero =>
        cases there
        exact first
    | succ k =>
        rw [indice_succ]
        exact rest k other there

theorem criaGrupo_zero (i : Nat) :
    criaGrupo lidos falha perde i (grupo :: resto) 0 ↔
      grupo.lido lidos = none ∧ abreGrupo lidos (falha i) grupo := by
  unfold criaGrupo
  constructor
  · rintro ⟨⟨other, there, new⟩, _⟩
    cases there
    exact new
  · intro new
    exact ⟨⟨grupo, rfl, new⟩, fun j before => absurd before (Nat.not_lt_zero j)⟩

theorem criaGrupo_succ (i k : Nat) :
    criaGrupo lidos falha perde i (grupo :: resto) (k + 1) ↔
      aceitaGrupo lidos (falha i) (perde i) grupo ∧
        criaGrupo lidos falha perde (i + 1) resto k := by
  unfold criaGrupo
  constructor
  · rintro ⟨⟨other, there, new, abre⟩, before⟩
    refine ⟨before 0 (Nat.succ_pos k) grupo rfl, ⟨other, there, new, ?_⟩, ?_⟩
    · rwa [indice_succ] at abre
    · intro j earlier other there
      have accepted := before (j + 1) (Nat.succ_lt_succ earlier) other there
      rwa [indice_succ] at accepted
  · rintro ⟨first, ⟨other, there, new, abre⟩, before⟩
    refine ⟨⟨other, there, new, ?_⟩, ?_⟩
    · rwa [indice_succ]
    · intro j earlier other there
      cases j with
      | zero =>
          cases there
          exact first
      | succ j =>
          rw [indice_succ]
          exact before j (Nat.lt_of_succ_lt_succ earlier) other there

/-- The groups are read to the end exactly when each is accepted. -/
theorem isOk_gravarGruposCom (i : Nat) :
    (gravarGruposCom falha perde eventId lidos i resto db ops).2.isOk = true ↔
      ∀ k grupo, resto[k]? = some grupo →
        aceitaGrupo lidos (falha (i + k)) (perde (i + k)) grupo := by
  induction resto generalizing i db ops with
  | nil =>
      constructor
      · intro _ k grupo there
        cases there
      · exact fun _ => rfl
  | cons grupo resto ih =>
      rw [aceitaGrupos_cons]
      unfold gravarGruposCom
      by_cases abre : abreGrupo lidos (falha i) grupo
      · obtain ⟨aberto, atualiza, opened, _⟩ := abrirGrupo_ok eventId db abre
        simp only [opened]
        cases roles : rolesDoGrupo (perde i) (grupo.lido lidos)
            (((grupo.lido lidos).map GrupoLido.id).getD grupo.uuid) grupo with
        | error falhou =>
            constructor
            · intro fine
              cases fine
            · rintro ⟨⟨_, fine⟩, _⟩
              rw [roles] at fine
              cases fine
        | ok gravadas =>
            have first : aceitaGrupo lidos (falha i) (perde i) grupo := by
              refine ⟨abre, ?_⟩
              rw [roles]
              rfl
            rw [ih (i + 1)]
            exact ⟨fun rest => ⟨first, rest⟩, And.right⟩
      · obtain ⟨falhou, opened⟩ := abrirGrupo_error eventId db abre
        simp only [opened]
        constructor
        · intro fine
          cases fine
        · exact fun every => absurd every.1.1 abre

/-- A new group that is opened adds a row, whatever comes after it. -/
theorem length_groups_of_nova (perde : Nat → Except Failure Unit) {i : Nat}
    (abre : abreGrupo lidos (falha i) grupo)
    (new : grupo.lido lidos = none) (eventId : Id) (resto : List GroupRoleDto) (db : Database)
    (ops : List OperacaoDeEdicao) :
    db.catalogue.groups.length <
      (gravarGruposCom falha perde eventId lidos i (grupo :: resto)
        db ops).1.catalogue.groups.length := by
  obtain ⟨aberto, atualiza, opened, grown⟩ := abrirGrupo_ok eventId db abre
  rw [if_pos new] at grown
  unfold gravarGruposCom
  simp only [opened]
  cases rolesDoGrupo (perde i) (grupo.lido lidos)
      (((grupo.lido lidos).map GrupoLido.id).getD grupo.uuid) grupo with
  | error falhou =>
      change _ < aberto.catalogue.groups.length
      omega
  | ok gravadas =>
      apply Nat.lt_of_lt_of_le _ (length_groups_gravarGruposCom (i + 1))
      omega

/-- The tables stay as they are exactly when no group is created on the way. -/
theorem gravarGruposCom_eq_iff (i : Nat) :
    (gravarGruposCom falha perde eventId lidos i resto db ops).1 = db ↔
      ¬∃ k, criaGrupo lidos falha perde i resto k := by
  induction resto generalizing i db ops with
  | nil =>
      constructor
      · rintro _ ⟨k, ⟨grupo, there, _⟩, _⟩
        cases there
      · exact fun _ => rfl
  | cons grupo resto ih =>
      by_cases abre : abreGrupo lidos (falha i) grupo
      · obtain ⟨aberto, atualiza, opened, grown⟩ := abrirGrupo_ok eventId db abre
        by_cases new : grupo.lido lidos = none
        · have created : ∃ k, criaGrupo lidos falha perde i (grupo :: resto) k :=
            ⟨0, (criaGrupo_zero i).mpr ⟨new, abre⟩⟩
          have longer := length_groups_of_nova perde abre new eventId resto db ops
          constructor
          · intro same
            rw [same] at longer
            exact absurd longer (Nat.lt_irrefl _)
          · exact fun none_of => absurd created none_of
        · rw [if_neg new] at grown
          subst grown
          unfold gravarGruposCom
          simp only [opened]
          cases roles : rolesDoGrupo (perde i) (grupo.lido lidos)
              (((grupo.lido lidos).map GrupoLido.id).getD grupo.uuid) grupo with
          | error falhou =>
              constructor
              · rintro _ ⟨k, created⟩
                cases k with
                | zero => exact new ((criaGrupo_zero i).mp created).1
                | succ k =>
                    have fine := ((criaGrupo_succ i k).mp created).1.2
                    rw [roles] at fine
                    cases fine
              · exact fun _ => rfl
          | ok gravadas =>
              have first : aceitaGrupo lidos (falha i) (perde i) grupo := by
                refine ⟨abre, ?_⟩
                rw [roles]
                rfl
              change (gravarGruposCom falha perde eventId lidos (i + 1) resto _ _).1 = _ ↔ _
              rw [ih (i + 1), not_iff_not]
              constructor
              · rintro ⟨k, created⟩
                exact ⟨k + 1, (criaGrupo_succ i k).mpr ⟨first, created⟩⟩
              · rintro ⟨k, created⟩
                cases k with
                | zero => exact absurd ((criaGrupo_zero i).mp created).1 new
                | succ k => exact ⟨k, ((criaGrupo_succ i k).mp created).2⟩
      · obtain ⟨falhou, opened⟩ := abrirGrupo_error eventId db abre
        unfold gravarGruposCom
        simp only [opened]
        constructor
        · rintro _ ⟨k, created⟩
          cases k with
          | zero => exact abre ((criaGrupo_zero i).mp created).2
          | succ k => exact abre ((criaGrupo_succ i k).mp created).1.1
        · exact fun _ => trivial

/-- Without failures of its own it is the group part as it is known. -/
theorem gravarGruposCom_semFalhas (i : Nat) :
    gravarGruposCom (fun _ => pure ()) (fun _ => pure ()) eventId lidos i resto db ops =
      gravarGrupos eventId lidos resto db ops := by
  induction resto generalizing i db ops with
  | nil => rfl
  | cons grupo resto ih =>
      unfold gravarGruposCom gravarGrupos abrirGrupo rolesDoGrupo GroupRoleDto.lido
      generalize (grupo.id.bind fun id => lidos.find? fun g => g.id = id) = lido
      cases janelaRecebida grupo with
      | error falhou => rfl
      | ok janela =>
          cases lido with
          | none =>
              cases removed : removerRoles [] grupo.roles with
              | error falhou => simp [removed, bind, Except.bind, pure, Except.pure]
              | ok removidas =>
                  cases written : gravarRoles [] grupo.uuid grupo.roles with
                  | error falhou => simp [removed, written, bind, Except.bind, pure, Except.pure]
                  | ok gravadas =>
                      simp [removed, written, bind, Except.bind, pure, Except.pure, ← ih (i + 1)]
          | some lido =>
              cases removed : removerRoles lido.roles grupo.roles with
              | error falhou => simp [removed, bind, Except.bind, pure, Except.pure]
              | ok removidas =>
                  cases written : gravarRoles lido.roles lido.id grupo.roles with
                  | error falhou => simp [removed, written, bind, Except.bind, pure, Except.pure]
                  | ok gravadas =>
                      simp [removed, written, bind, Except.bind, pure, Except.pure, ← ih (i + 1)]

end Grupos

namespace BancoDoEvento

section Edicao

variable (amb : AmbienteDoEvento) (banco : BancoDoEvento) (id : Id) (form : EventForm)
  (requesterId : Option Id)

/-! ### Edits that throw -/

/-- A group of the form has a row that was not there before. -/
def Criou (depois : BancoDoEvento) (grupo : GroupRoleDto) : Prop :=
  (∃ row ∈ depois.db.catalogue.groups, row.id = grupo.uuid) ∧
    ¬∃ row ∈ banco.db.catalogue.groups, row.id = grupo.uuid

/-- An edit that throws leaves the tables as they were, and the form sent again, corrected, creates
none of its groups a second time. -/
structure EdicaoRecusada : Prop where
  intacto : ∀ falhou, (banco.update amb id form requesterId).2 = .error falhou →
    (banco.update amb id form requesterId).1 = banco
  umaVez : ∀ falhou, (banco.update amb id form requesterId).2 = .error falhou →
    ∀ (outro : AmbienteDoEvento) (corrigido : EventForm) (quem : Option Id) (k : Nat) grupo grupo',
      form.groupRoles[k]? = some grupo → corrigido.groupRoles[k]? = some grupo' →
        ¬(banco.Criou (banco.update amb id form requesterId).1 grupo ∧
          (banco.update amb id form requesterId).1.Criou
            ((banco.update amb id form requesterId).1.update outro id corrigido quem).1 grupo')

/-! ### The condition -/

/-- The checks pass, and no group with registrations is left out: the loop begins. -/
def Comeca : Prop :=
  (banco.validarEdicao amb id form requesterId).isOk = true ∧
    (form.groupRoles = [] ∨ (removerGrupos (banco.db.lerGrupos id) form.groupRoles).isOk = true)

/-- A new group of the form is inserted before anything of the groups is refused. -/
def CriaGrupo : Prop :=
  banco.Comeca amb id form requesterId ∧
    ∃ k, criaGrupo (banco.db.lerGrupos id) (fun i => amb.falha (.criarGrupo i))
      (fun i => amb.perde (.criarGrupo i)) 0 form.groupRoles k

/-- Nothing of the groups is refused. -/
def AceitaGrupos : Prop :=
  banco.Comeca amb id form requesterId ∧
    ∀ k grupo, form.groupRoles[k]? = some grupo →
      aceitaGrupo (banco.db.lerGrupos id) (amb.falha (.criarGrupo k)) (amb.perde (.criarGrupo k))
        grupo

/-- Nothing of the products is refused, and the database takes the first transaction. -/
def AceitaEscritas : Prop :=
  ∀ conferida db ops, banco.validarEdicao amb id form requesterId = .ok conferida →
    operacoesDeGruposCom (fun i => amb.falha (.criarGrupo i)) (fun i => amb.perde (.criarGrupo i))
      id (banco.db.lerGrupos id)
      form.groupRoles banco.db = (db, .ok ops) →
    (({ banco with db := db } : BancoDoEvento).gravarTudo amb id form conferida ops).isOk = true

/-- The two transactions are acknowledged, and the second and the last read do not fail. -/
structure Conclui : Prop where
  transacao : (amb.perde .transacao).isOk = true
  equipe : (amb.falha .equipe).isOk = true
  confirmada : (amb.perde .equipe).isOk = true
  reler : (amb.falha .reler).isOk = true

/-- Nothing fails after something was written. -/
structure SemRestos : Prop where
  /-- where a group is created, the rest comes to the end of the first transaction -/
  grupos : banco.CriaGrupo amb id form requesterId →
    banco.AceitaGrupos amb id form requesterId ∧ banco.AceitaEscritas amb id form requesterId
  /-- once the first transaction is written nothing throws -/
  depois : banco.AceitaGrupos amb id form requesterId →
    banco.AceitaEscritas amb id form requesterId → Conclui amb

variable {amb banco id form requesterId} {conferida : EdicaoConferida} {db : Database}
  {gravado depois : BancoDoEvento} {ops : List OperacaoDeEdicao}

/-! ### One step -/

theorem operacoesDeGruposCom_isOk (checked : banco.validarEdicao amb id form requesterId =
    .ok conferida) :
    (operacoesDeGruposCom (fun i => amb.falha (.criarGrupo i)) (fun i => amb.perde (.criarGrupo i))
      id (banco.db.lerGrupos id)
        form.groupRoles banco.db).2.isOk = true ↔ banco.AceitaGrupos amb id form requesterId := by
  have valid : (banco.validarEdicao amb id form requesterId).isOk = true := by
    rw [checked]
    rfl
  unfold operacoesDeGruposCom AceitaGrupos Comeca
  cases listed : form.groupRoles with
  | nil =>
      constructor
      · intro _
        refine ⟨⟨valid, .inl rfl⟩, ?_⟩
        intro k grupo there
        cases there
      · exact fun _ => rfl
  | cons grupo resto =>
      simp only [List.isEmpty_cons, Bool.false_eq_true, if_false, reduceCtorEq, false_or, valid,
        true_and]
      cases removed : removerGrupos (banco.db.lerGrupos id) (grupo :: resto) with
      | error falhou =>
          constructor
          · intro fine
            cases fine
          · rintro ⟨fine, _⟩
            cases fine
      | ok removidos =>
          change (gravarGruposCom _ _ _ _ 0 _ _ _).2.isOk = true ↔ _
          rw [isOk_gravarGruposCom 0]
          simp only [Nat.zero_add]
          exact ⟨fun every => ⟨rfl, every⟩, And.right⟩

theorem operacoesDeGruposCom_eq_iff (checked : banco.validarEdicao amb id form requesterId =
    .ok conferida) :
    (operacoesDeGruposCom (fun i => amb.falha (.criarGrupo i)) (fun i => amb.perde (.criarGrupo i))
      id (banco.db.lerGrupos id)
        form.groupRoles banco.db).1 = banco.db ↔ ¬banco.CriaGrupo amb id form requesterId := by
  have valid : (banco.validarEdicao amb id form requesterId).isOk = true := by
    rw [checked]
    rfl
  unfold operacoesDeGruposCom CriaGrupo Comeca
  cases listed : form.groupRoles with
  | nil =>
      constructor
      · rintro _ ⟨_, k, ⟨grupo, there, _⟩, _⟩
        cases there
      · exact fun _ => rfl
  | cons grupo resto =>
      simp only [List.isEmpty_cons, Bool.false_eq_true, if_false, reduceCtorEq, false_or, valid,
        true_and]
      cases removed : removerGrupos (banco.db.lerGrupos id) (grupo :: resto) with
      | error falhou =>
          constructor
          · rintro _ ⟨fine, _⟩
            cases fine
          · exact fun _ => rfl
      | ok removidos =>
          change (gravarGruposCom _ _ _ _ 0 _ _ _).1 = _ ↔ _
          rw [gravarGruposCom_eq_iff 0, not_iff_not]
          exact ⟨fun created => ⟨rfl, created⟩, And.right⟩

/-- Every event has its columns, written before now. -/
def Relogio (amb : AmbienteDoEvento) (banco : BancoDoEvento) : Prop :=
  ∀ event ∈ banco.db.catalogue.events, ∃ colunas ∈ banco.colunas,
    colunas.eventId = event.id ∧ colunas.updateAt < amb.agora

/-- The first transaction marks the row of the event. -/
theorem colunas_gravarTudo
    (written : banco.gravarTudo amb id form conferida ops = .ok gravado) :
    ∀ colunas ∈ gravado.colunas, colunas.eventId = id → colunas.updateAt = amb.agora := by
  obtain ⟨mais, _, first⟩ := bind_eq_ok_iff.mp written
  obtain ⟨_, _, rest⟩ := bind_eq_ok_iff.mp first
  obtain ⟨db, _, same⟩ := bind_eq_ok_iff.mp rest
  rw [pure_eq_ok_iff] at same
  subst same
  intro colunas mem here
  rcases mem_updateKey.mp mem with ⟨old, _, _, rfl⟩ | ⟨_, other⟩
  · rfl
  · exact absurd here other

theorem colunas_segundaTransacao (written : banco.segundaTransacao amb id form = .ok depois) :
    depois.colunas = banco.colunas := by
  obtain ⟨_, _, rest⟩ := bind_eq_ok_iff.mp written
  rw [pure_eq_ok_iff] at rest
  subst rest
  unfold gravarCertificado
  cases form.certificate <;> cases form.adminIds <;> cases form.tesoureiros <;> rfl

/-- What comes after the first transaction leaves its mark. -/
theorem colunas_concluir : (banco.concluir amb id form).1.colunas = banco.colunas := by
  unfold concluir
  cases amb.perde .transacao with
  | error falhou => rfl
  | ok _ =>
      cases second : banco.segundaTransacao amb id form with
      | error falhou => rfl
      | ok depois => exact colunas_segundaTransacao second

theorem concluir_isOk_iff : (banco.concluir amb id form).2.isOk = true ↔ Conclui amb := by
  have outcome : (banco.concluir amb id form).2.isOk =
      ((amb.perde .transacao).isOk && (amb.falha .equipe).isOk && (amb.perde .equipe).isOk &&
        (amb.falha .reler).isOk) := by
    unfold concluir segundaTransacao
    cases amb.perde .transacao <;> cases amb.falha .equipe <;> cases amb.perde .equipe <;> rfl
  simp only [outcome, Bool.and_eq_true]
  exact ⟨fun ⟨⟨⟨transacao, equipe⟩, confirmada⟩, reler⟩ => ⟨transacao, equipe, confirmada, reler⟩,
    fun conclui => ⟨⟨⟨conclui.transacao, conclui.equipe⟩, conclui.confirmada⟩, conclui.reler⟩⟩

/-- An event that the checks found is of the catalogue. -/
theorem event_mem_of_validarEdicao
    (checked : banco.validarEdicao amb id form requesterId = .ok conferida) :
    ∃ event ∈ banco.db.catalogue.events, event.id = id := by
  obtain ⟨_, _, rest⟩ := bind_eq_ok_iff.mp checked
  obtain ⟨_, _, rest⟩ := bind_eq_ok_iff.mp rest
  obtain ⟨event, found, _⟩ := bind_eq_ok_iff.mp rest
  rw [orFail_eq_ok_iff] at found
  have named := List.find?_some found
  exact ⟨event, List.mem_of_find?_eq_some found, of_decide_eq_true named⟩

theorem aceitaEscritas_iff (checked : banco.validarEdicao amb id form requesterId = .ok conferida)
    (grupos : operacoesDeGruposCom (fun i => amb.falha (.criarGrupo i)) (fun i =>
      amb.perde (.criarGrupo i)) id (banco.db.lerGrupos id)
      form.groupRoles banco.db = (db, .ok ops)) :
    banco.AceitaEscritas amb id form requesterId ↔
      (({ banco with db := db } : BancoDoEvento).gravarTudo amb id form conferida ops).isOk =
        true := by
  constructor
  · exact fun every => every conferida db ops checked grupos
  · intro fine outra db' ops' checked' grupos'
    rw [checked] at checked'
    rw [grupos] at grupos'
    cases checked'
    cases grupos'
    exact fine

/-- A refusal before the first transaction leaves the groups that were created. -/
theorem intacto_antes (falhou : Failure)
    (checked : banco.validarEdicao amb id form requesterId = .ok conferida)
    (grupos : (operacoesDeGruposCom (fun i => amb.falha (.criarGrupo i)) (fun i =>
      amb.perde (.criarGrupo i)) id (banco.db.lerGrupos id) form.groupRoles banco.db).1 = db)
    (thrown : banco.update amb id form requesterId = ({ banco with db := db }, .error falhou)) :
    (∀ falhou, (banco.update amb id form requesterId).2 = .error falhou →
      (banco.update amb id form requesterId).1 = banco) ↔
        ¬banco.CriaGrupo amb id form requesterId := by
  rw [← operacoesDeGruposCom_eq_iff checked, grupos, thrown]
  constructor
  · intro every
    have same := every falhou rfl
    exact congrArg BancoDoEvento.db same
  · intro same _ _
    change ({ banco with db := db } : BancoDoEvento) = banco
    rw [same]

/-- Once the first transaction is written the tables are not as they were. -/
theorem ne_of_colunas (relogio : Relogio amb banco)
    (checked : banco.validarEdicao amb id form requesterId = .ok conferida)
    (marked : ∀ colunas ∈ depois.colunas, colunas.eventId = id → colunas.updateAt = amb.agora) :
    depois ≠ banco := by
  rintro rfl
  obtain ⟨event, mem, same⟩ := event_mem_of_validarEdicao checked
  obtain ⟨colunas, there, of_event, before⟩ := relogio event mem
  rw [marked colunas there (of_event.trans same)] at before
  exact lt_irrefl _ before

/-- Once the first transaction is written a refusal leaves it, so nothing may be refused. -/
theorem intacto_depois (relogio : Relogio amb banco)
    (checked : banco.validarEdicao amb id form requesterId = .ok conferida)
    (grupos : operacoesDeGruposCom (fun i => amb.falha (.criarGrupo i))
      (fun i => amb.perde (.criarGrupo i)) id (banco.db.lerGrupos id) form.groupRoles banco.db =
        (db, .ok ops))
    (written : ({ banco with db := db } : BancoDoEvento).gravarTudo amb id form conferida ops =
      .ok gravado) :
    (∀ falhou, (banco.update amb id form requesterId).2 = .error falhou →
      (banco.update amb id form requesterId).1 = banco) ↔ Conclui amb := by
  have ended : banco.update amb id form requesterId = gravado.concluir amb id form := by
    unfold update
    simp only [checked, grupos, written]
  have marked := colunas_gravarTudo written
  have changed : (gravado.concluir amb id form).1 ≠ banco := by
    apply ne_of_colunas relogio checked
    rwa [colunas_concluir]
  rw [ended, ← @concluir_isOk_iff amb gravado id form]
  cases answer : (gravado.concluir amb id form).2 with
  | error falhou =>
      constructor
      · exact fun every => absurd (every falhou rfl) changed
      · intro fine
        cases fine
  | ok _ =>
      constructor
      · exact fun _ => rfl
      · intro _ falhou thrown
        cases thrown

/-- Where the first transaction is not reached or not taken, the condition is that no group was
created. -/
theorem semRestos_iff_of_recusada (refused : ¬(banco.AceitaGrupos amb id form requesterId ∧
    banco.AceitaEscritas amb id form requesterId)) :
    banco.SemRestos amb id form requesterId ↔ ¬banco.CriaGrupo amb id form requesterId := by
  constructor
  · exact fun semRestos created => refused (semRestos.grupos created)
  · intro none_of
    constructor
    · exact fun created => absurd created none_of
    · exact fun accepted committed => absurd ⟨accepted, committed⟩ refused

theorem semRestos_iff_of_aceita (accepted : banco.AceitaGrupos amb id form requesterId)
    (committed : banco.AceitaEscritas amb id form requesterId) :
    banco.SemRestos amb id form requesterId ↔ Conclui amb := by
  constructor
  · exact fun semRestos => semRestos.depois accepted committed
  · intro fine
    exact ⟨fun _ => ⟨accepted, committed⟩, fun _ _ => fine⟩

/-- A rejected edit changes nothing exactly when nothing fails after something was written. -/
theorem intacto_iff (relogio : Relogio amb banco) :
    (∀ falhou, (banco.update amb id form requesterId).2 = .error falhou →
      (banco.update amb id form requesterId).1 = banco) ↔
        banco.SemRestos amb id form requesterId := by
  cases checked : banco.validarEdicao amb id form requesterId with
  | error falhou =>
      have thrown : banco.update amb id form requesterId = (banco, .error falhou) := by
        unfold update
        rw [checked]
        rfl
      have refused : ¬banco.Comeca amb id form requesterId := by
        rintro ⟨valid, _⟩
        rw [checked] at valid
        cases valid
      rw [semRestos_iff_of_recusada fun both => refused both.1.1, thrown]
      constructor
      · exact fun _ created => refused created.1
      · exact fun _ _ _ => rfl
  | ok conferida =>
      have accepted_iff := operacoesDeGruposCom_isOk checked
      cases grupos : operacoesDeGruposCom (fun i => amb.falha (.criarGrupo i)) (fun i =>
        amb.perde (.criarGrupo i)) id
          (banco.db.lerGrupos id) form.groupRoles banco.db with
      | mk db answer =>
          have first : (operacoesDeGruposCom (fun i => amb.falha (.criarGrupo i)) (fun i =>
              amb.perde (.criarGrupo i)) id
              (banco.db.lerGrupos id) form.groupRoles banco.db).1 = db := by rw [grupos]
          rw [grupos] at accepted_iff
          cases answer with
          | error falhou =>
              have thrown : banco.update amb id form requesterId =
                  ({ banco with db := db }, .error falhou) := by
                unfold update
                simp only [checked, grupos]
                rfl
              rw [intacto_antes falhou checked first thrown, semRestos_iff_of_recusada]
              exact fun both => Bool.false_ne_true (accepted_iff.mpr both.1)
          | ok ops =>
              have accepted : banco.AceitaGrupos amb id form requesterId := accepted_iff.mp rfl
              have written_iff := aceitaEscritas_iff checked grupos
              cases written : ({ banco with db := db } : BancoDoEvento).gravarTudo amb id form
                  conferida ops with
              | error falhou =>
                  rw [written] at written_iff
                  have thrown : banco.update amb id form requesterId =
                      ({ banco with db := db }, .error falhou) := by
                    unfold update
                    simp only [checked, grupos, written]
                    rfl
                  rw [intacto_antes falhou checked first thrown, semRestos_iff_of_recusada]
                  exact fun both => Bool.false_ne_true (written_iff.mp both.2)
              | ok gravado =>
                  rw [written] at written_iff
                  rw [intacto_depois relogio checked grupos written,
                    semRestos_iff_of_aceita accepted (written_iff.mpr rfl)]

/-- The edits whose refusal leaves nothing behind. -/
theorem edicaoRecusada_iff (relogio : Relogio amb banco) :
    banco.EdicaoRecusada amb id form requesterId ↔ banco.SemRestos amb id form requesterId := by
  rw [← intacto_iff relogio]
  constructor
  · exact EdicaoRecusada.intacto
  · intro intacto
    constructor
    case intacto => exact intacto
    case umaVez =>
      -- a first call that changed nothing created no group
      rintro falhou thrown outro corrigido quem k grupo grupo' _ _ ⟨⟨there, fresh⟩, _⟩
      rw [intacto falhou thrown] at there
      exact fresh there

/-- Where every group of the form is known, only what comes after the first transaction counts. -/
theorem semRestos_of_conhecidos
    (conhecidos : ∀ grupo ∈ form.groupRoles, grupo.lido (banco.db.lerGrupos id) ≠ none)
    (conclui : Conclui amb) : banco.SemRestos amb id form requesterId where
  grupos := by
    rintro ⟨_, k, ⟨grupo, there, new, _⟩, _⟩
    exact absurd new (conhecidos grupo (List.mem_of_getElem? there))
  depois := fun _ _ => conclui

end Edicao

/-! ### A new group, and the window of another closed before it opens -/

namespace JanelaTrocada

def banco : BancoDoEvento where
  db := UmaVaga.vazio
  painel := { DuasIgrejas.painel with eventos := [⟨5, 1⟩] }
  colunas := [⟨5, none, 10⟩]
  certificados := []

/-- Nothing of its own fails. -/
def amb : AmbienteDoEvento where
  textos := ⟨id, id⟩
  falha := fun _ => pure ()
  perde := fun _ => pure ()
  agora := 1000

/-- The group of the event, with the end of its window. -/
def adultos (closesAt : Instant) : GroupRoleDto where
  id := some 6
  name := "Adultos"
  capacity := 1
  active := none
  opensAt := some (some 2000)
  closesAt := some (some closesAt)
  roles := [⟨some 7, 100, "Inteira", 0⟩, ⟨some 8, 50, "Meia", 0⟩]
  uuid := 0

/-- A group that is not there yet, with the id its row gets. -/
def jovens (uuid : Id) : GroupRoleDto where
  id := none
  name := "Jovens"
  capacity := 10
  active := none
  opensAt := none
  closesAt := none
  roles := []
  uuid := uuid

def form (groupRoles : List GroupRoleDto) : EventForm where
  groupRoles := groupRoles
  products := none
  dados :=
    { name := "Retiro"
      status := none
      startDate := ⟨2025, 7, 1⟩
      endDate := 5000
      publicStore := none
      minorAgeLimit := none }
  groupLink := none
  churchId := none
  adminIds := none
  tesoureiros := none
  certificate := none

theorem relogio : Relogio amb banco := by
  intro event mem
  rw [banco, UmaVaga.vazio, List.mem_singleton] at mem
  subst mem
  exact ⟨⟨5, none, 10⟩, List.mem_singleton_self _, rfl, by decide⟩

end JanelaTrocada

/-- Without the new group the refusal leaves everything as it was. -/
theorem edicaoRecusada_conhecidos :
    JanelaTrocada.banco.EdicaoRecusada JanelaTrocada.amb 5
      (JanelaTrocada.form [JanelaTrocada.adultos 1000]) (some 7) := by
  apply (edicaoRecusada_iff JanelaTrocada.relogio).mpr
  apply semRestos_of_conhecidos
  · intro grupo mem
    have same : grupo = JanelaTrocada.adultos 1000 := List.mem_singleton.mp mem
    rw [same]
    decide
  · exact ⟨rfl, rfl, rfl, rfl⟩

/-- The form with the end of the window before its beginning is refused, and the new group stays;
with the window put right the group is created again. -/
theorem not_edicaoRecusada :
    ((JanelaTrocada.banco.update JanelaTrocada.amb 5
      (JanelaTrocada.form [JanelaTrocada.jovens 20, JanelaTrocada.adultos 1000])
        (some 7)).1.db.catalogue.groups.map GroupRoles.name) = ["Adultos", "Jovens"] ∧
      ¬JanelaTrocada.banco.EdicaoRecusada JanelaTrocada.amb 5
        (JanelaTrocada.form [JanelaTrocada.jovens 20, JanelaTrocada.adultos 1000]) (some 7) := by
  constructor
  · rfl
  · intro recusada
    have thrown : (JanelaTrocada.banco.update JanelaTrocada.amb 5
        (JanelaTrocada.form [JanelaTrocada.jovens 20, JanelaTrocada.adultos 1000])
        (some 7)).2 = .error (badRequest ("No grupo \"Adultos\", o encerramento das inscrições " ++
          "precisa vir depois da abertura")) := by
      rfl
    apply recusada.umaVez _ thrown JanelaTrocada.amb
      (JanelaTrocada.form [JanelaTrocada.jovens 21, JanelaTrocada.adultos 3000]) (some 7) 0
      (JanelaTrocada.jovens 20) (JanelaTrocada.jovens 21) rfl rfl
    unfold Criou
    decide +kernel

end BancoDoEvento

end IccvBackend
