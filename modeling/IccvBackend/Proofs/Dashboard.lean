/-
Module: IccvBackend.Proofs.Dashboard
Purpose: When the task of the waiting list is about somebody who can be called, and counts the
  places there are.
Trusted boundary: none
Main exports: Dashboard.PodeChamar, Dashboard.vagasLivres, Dashboard.pendencias_certas_iff
-/
import IccvBackend.Dashboard.Service
import IccvBackend.Proofs.Counter
import IccvBackend.Proofs.Seats

namespace IccvBackend

open Lib

namespace Dashboard

/-! ### What the task is for -/

/-- A group that takes one more registration. -/
def TemVaga (dashboard : Dashboard) (group : GroupRoles) : Prop :=
  ∀ capacity, group.capacity = some capacity → (dashboard.taken group : Int) < capacity

/-- Somebody waits for a role of a group of the event that takes one more. -/
def PodeChamar (dashboard : Dashboard) (eventId : Id) : Prop :=
  ∃ row ∈ dashboard.db.waitlist, row.eventId = eventId ∧
    ∃ group ∈ dashboard.db.catalogue.groups, group.eventId = eventId ∧
      (∃ role ∈ group.roles, role.id = row.roleRegistrationId) ∧ dashboard.TemVaga group

/-- The places left in a group; one without capacity has none to count. -/
def vagasDoGrupo (dashboard : Dashboard) (group : GroupRoles) : Int :=
  match group.capacity with
  | some capacity => max (capacity - dashboard.taken group) 0
  | none => 0

def gruposDoEvento (dashboard : Dashboard) (eventId : Id) : List GroupRoles :=
  dashboard.db.catalogue.groups.filter fun group => group.eventId = eventId

/-- The free places of the groups with a capacity. -/
def vagasLivres (dashboard : Dashboard) (eventId : Id) : Int :=
  ((dashboard.gruposDoEvento eventId).map dashboard.vagasDoGrupo).sum

/-- The tasks list the waiting list of an event exactly when somebody can be called, with its free
places. -/
def TarefaCerta (dashboard : Dashboard) (eventId : Id) (itens : List Pendencia) : Prop :=
  ((∃ p ∈ itens, p.kind = .waitlist ∧ p.eventId = eventId) ↔ dashboard.PodeChamar eventId) ∧
    ∀ p ∈ itens, p.kind = .waitlist → p.eventId = eventId →
      p.seatsOpen = some (dashboard.vagasLivres eventId)

/-- The sums of the event say what its groups say: with somebody to call, no registration is in a
group without capacity or beyond one, and a group with capacity has a place; with nobody to call,
nobody waits, or the registrations of all the groups reach the capacities. -/
def SomasDizem (dashboard : Dashboard) (eventId : Id) : Prop :=
  (dashboard.PodeChamar eventId →
    (∀ group ∈ dashboard.gruposDoEvento eventId,
      (group.capacity = none → dashboard.taken group = 0) ∧
        ∀ capacity, group.capacity = some capacity → (dashboard.taken group : Int) ≤ capacity) ∧
    ∃ group ∈ dashboard.gruposDoEvento eventId, ∃ capacity, group.capacity = some capacity ∧
      (dashboard.taken group : Int) < capacity) ∧
  (¬ dashboard.PodeChamar eventId →
    (∀ row ∈ dashboard.db.waitlist, row.eventId ≠ eventId) ∨
      ((dashboard.gruposDoEvento eventId).filterMap GroupRoles.capacity).sum ≤
        (((dashboard.gruposDoEvento eventId).map dashboard.taken).sum : Nat))

/-! ### Sums over the groups -/

section Somas

variable {dashboard : Dashboard} {eventId : Id}

/-- What a group adds to the difference of the two sums of the event. -/
def saldoDoGrupo (dashboard : Dashboard) (group : GroupRoles) : Int :=
  match group.capacity with
  | some capacity => capacity - dashboard.taken group
  | none => -dashboard.taken group

variable (dashboard) in
theorem sum_saldo (groups : List GroupRoles) :
    (groups.map dashboard.saldoDoGrupo).sum =
      (groups.filterMap GroupRoles.capacity).sum - ((groups.map dashboard.taken).sum : Nat) := by
  induction groups with
  | nil => rfl
  | cons group groups ih =>
      rw [List.map_cons, List.sum_cons, ih, List.map_cons, List.sum_cons, saldoDoGrupo]
      cases capacity : group.capacity with
      | none =>
          rw [List.filterMap_cons_none capacity]
          push_cast
          ring
      | some capacity' =>
          rw [List.filterMap_cons_some capacity, List.sum_cons]
          push_cast
          ring

variable (dashboard) in
theorem saldo_le_vagas (group : GroupRoles) :
    dashboard.saldoDoGrupo group ≤ dashboard.vagasDoGrupo group := by
  unfold saldoDoGrupo vagasDoGrupo
  cases group.capacity with
  | none => simp
  | some capacity => exact le_max_left _ _

theorem vagas_eq_saldo_iff (group : GroupRoles) :
    dashboard.saldoDoGrupo group = dashboard.vagasDoGrupo group ↔
      (group.capacity = none → dashboard.taken group = 0) ∧
        ∀ capacity, group.capacity = some capacity → (dashboard.taken group : Int) ≤ capacity := by
  unfold saldoDoGrupo vagasDoGrupo
  cases group.capacity with
  | none => simp
  | some capacity =>
      simp only [reduceCtorEq, false_implies, Option.some.injEq, true_and, forall_eq']
      omega

theorem sum_vagas_pos_iff (groups : List GroupRoles) :
    0 < (groups.map dashboard.vagasDoGrupo).sum ↔ ∃ group ∈ groups, ∃ capacity,
      group.capacity = some capacity ∧ (dashboard.taken group : Int) < capacity := by
  have nonneg : ∀ groups : List GroupRoles, 0 ≤ (groups.map dashboard.vagasDoGrupo).sum := by
    intro groups
    apply List.sum_nonneg
    intro n mem
    obtain ⟨group, _, rfl⟩ := List.mem_map.mp mem
    unfold vagasDoGrupo
    cases group.capacity with
    | none => exact le_refl _
    | some capacity => exact le_max_right _ _
  have one : ∀ group : GroupRoles, 0 < dashboard.vagasDoGrupo group ↔ ∃ capacity,
      group.capacity = some capacity ∧ (dashboard.taken group : Int) < capacity := by
    intro group
    unfold vagasDoGrupo
    cases group.capacity with
    | none => simp
    | some capacity =>
        simp only [Option.some.injEq, exists_eq_left']
        omega
  induction groups with
  | nil => simp
  | cons group groups ih =>
      rw [List.map_cons, List.sum_cons]
      simp only [List.mem_cons, exists_eq_or_imp, ← ih, ← one group]
      have rest := nonneg groups
      have this_one := nonneg [group]
      rw [List.map_singleton, List.sum_singleton] at this_one
      omega

/-- The two sums agree when no group has a registration that is not of a place. -/
theorem sum_saldo_eq_iff (groups : List GroupRoles) :
    (groups.map dashboard.saldoDoGrupo).sum = (groups.map dashboard.vagasDoGrupo).sum ↔
      ∀ group ∈ groups, dashboard.saldoDoGrupo group = dashboard.vagasDoGrupo group := by
  constructor
  · intro same
    induction groups with
    | nil => simp
    | cons group groups ih =>
        rw [List.map_cons, List.map_cons, List.sum_cons, List.sum_cons] at same
        have head := saldo_le_vagas dashboard group
        have rest : (groups.map dashboard.saldoDoGrupo).sum ≤
            (groups.map dashboard.vagasDoGrupo).sum :=
          List.sum_le_sum fun group _ => saldo_le_vagas dashboard group
        have same_head : dashboard.saldoDoGrupo group = dashboard.vagasDoGrupo group := by omega
        intro other mem
        rcases List.mem_cons.mp mem with rfl | later
        · exact same_head
        · exact ih (by omega) other later
  · intro same
    rw [List.map_congr_left same]

end Somas

/-! ### The numbers of one event -/

section Detalhe

variable {dashboard : Dashboard} {porNome : String → String → Bool} {fuso : Fuso} {agora : Instant}
  {ids : List Id} {evento : EventoBase}

def linha (dashboard : Dashboard) (group : GroupRoles) : GrupoDoEvento where
  eventId := group.eventId
  groupId := group.id
  name := group.name
  capacity := group.capacity
  taken := dashboard.taken group

variable (dashboard porNome) in
/-- The rows of an event are those of its groups, in some order. -/
theorem perm_grupos (asked : evento.id ∈ ids) :
    ((dashboard.grupos porNome ids).filter fun linha => linha.eventId = evento.id).Perm
      ((dashboard.gruposDoEvento evento.id).map dashboard.linha) := by
  unfold grupos gruposDoEvento
  apply ((List.mergeSort_perm _ _).filter _).trans
  change (List.filter _ (List.map dashboard.linha _)).Perm _
  rw [List.filter_map, List.filter_filter]
  apply List.Perm.of_eq
  congr 1
  apply List.filter_congr
  intro group _
  by_cases same : group.eventId = evento.id
  · simp [linha, same, asked]
  · simp [linha, same]

theorem taken_detalhe (asked : evento.id ∈ ids) :
    (dashboard.detalhe fuso agora (dashboard.grupos porNome ids) evento).seats.taken =
      ((dashboard.gruposDoEvento evento.id).map dashboard.taken).sum := by
  have perm := (perm_grupos dashboard porNome asked).map
    GrupoDoEvento.taken
  rw [List.map_map] at perm
  exact perm.sum_eq

theorem total_detalhe (asked : evento.id ∈ ids) :
    (dashboard.detalhe fuso agora (dashboard.grupos porNome ids) evento).seats.total =
      if ((dashboard.gruposDoEvento evento.id).filterMap GroupRoles.capacity).sum = 0 then none
      else some ((dashboard.gruposDoEvento evento.id).filterMap GroupRoles.capacity).sum := by
  have perm := (perm_grupos dashboard porNome asked).filterMap
    GrupoDoEvento.capacity
  rw [List.filterMap_map] at perm
  have total : ((dashboard.detalhe fuso agora (dashboard.grupos porNome ids)
      evento).groups.filterMap GrupoDoEvento.capacity).sum =
      ((dashboard.gruposDoEvento evento.id).filterMap GroupRoles.capacity).sum := perm.sum_eq
  change totalDeVagas (dashboard.detalhe fuso agora (dashboard.grupos porNome ids)
    evento).groups = _
  unfold totalDeVagas
  simp only [total]

/-- `livres` is the difference of the two sums, as far as it is a task. -/
theorem livres_detalhe (asked : evento.id ∈ ids) {n : Int} (pos : 0 < n) :
    (dashboard.detalhe fuso agora (dashboard.grupos porNome ids) evento).livres = n ↔
      ((dashboard.gruposDoEvento evento.id).map dashboard.saldoDoGrupo).sum = n := by
  rw [sum_saldo]
  unfold EventoDetalhado.livres
  rw [total_detalhe asked, taken_detalhe asked]
  split
  · next none =>
      split at none
      · omega
      · cases none
  · next total is =>
      split at is
      · cases is
      · rw [← Option.some.inj is]

theorem livres_pos_iff (asked : evento.id ∈ ids) :
    0 < (dashboard.detalhe fuso agora (dashboard.grupos porNome ids) evento).livres ↔
      0 < ((dashboard.gruposDoEvento evento.id).map dashboard.saldoDoGrupo).sum := by
  constructor
  · intro pos
    rwa [(livres_detalhe asked pos).mp rfl]
  · intro pos
    rwa [(livres_detalhe asked pos).mpr rfl]

theorem waitlist_pos_iff :
    0 < (dashboard.detalhe fuso agora (dashboard.grupos porNome ids) evento).waitlist ↔
      ∃ row ∈ dashboard.db.waitlist, row.eventId = evento.id := by
  change 0 < dashboard.db.waitlist.countP _ ↔ _
  rw [List.countP_pos_iff]
  simp only [decide_eq_true_eq]

end Detalhe

/-! ### The tasks -/

section Tarefas

variable {dashboard : Dashboard} {porNome : String → String → Bool} {fuso : Fuso} {agora : Instant}
  {eventos : List EventoBase} {evento : EventoBase} {perfil : Option Int} {todasAsIgrejas : Bool}

/-- A waiting list among the tasks is that of one of the events. -/
theorem mem_pendencias_waitlist {detalhados : List EventoDetalhado} {p : Pendencia} :
    p ∈ pendencias detalhados perfil todasAsIgrejas ∧ p.kind = .waitlist ↔
      ∃ e ∈ detalhados, e.listaDeEspera (gerenciaInscricao perfil todasAsIgrejas) = some p := by
  have kind_comprovantes : ∀ e : EventoDetalhado, e.comprovantes = some p → p.kind ≠ .waitlist := by
    intro e is
    unfold EventoDetalhado.comprovantes at is
    split at is
    · cases is
      simp
    · cases is
  have kind_espera : ∀ (e : EventoDetalhado) gerencia, e.listaDeEspera gerencia = some p →
      p.kind = .waitlist := by
    intro e gerencia is
    unfold EventoDetalhado.listaDeEspera at is
    split at is
    · cases is
      rfl
    · cases is
  unfold pendencias
  simp only [List.mem_flatMap, List.mem_append, Option.mem_toList]
  constructor
  · rintro ⟨⟨e, mem, receipts | waits⟩, kind⟩
    · exact absurd kind (kind_comprovantes e receipts)
    · exact ⟨e, mem, waits⟩
  · rintro ⟨e, mem, waits⟩
    exact ⟨⟨e, mem, .inr waits⟩, kind_espera e _ waits⟩

theorem listaDeEspera_eq_some {e : EventoDetalhado} {gerencia : Bool} {p : Pendencia} :
    e.listaDeEspera gerencia = some p →
      (e.phase ≠ .finished ∧ gerencia ∧ e.waitlist > 0 ∧ e.livres > 0) ∧ p.eventId = e.id ∧
        p.seatsOpen = some e.livres := by
  intro is
  unfold EventoDetalhado.listaDeEspera at is
  split at is
  · next all =>
      cases is
      exact ⟨all, rfl, rfl⟩
  · cases is

variable (dashboard) in
/-- The task of the waiting list of an unfinished event is there when somebody waits and the sums of
the event leave a place, and it says their difference. -/
theorem pendencias_espera (porNome : String → String → Bool)
    (ids : (eventos.map EventoBase.id).Nodup)
    (mem : evento ∈ eventos) (unfinished : faseDoEvento fuso agora evento ≠ .finished)
    (gerencia : gerenciaInscricao perfil todasAsIgrejas = true) :
    let itens := pendencias (dashboard.detalhar porNome fuso agora eventos) perfil todasAsIgrejas
    let saldo := ((dashboard.gruposDoEvento evento.id).map dashboard.saldoDoGrupo).sum
    ((∃ p ∈ itens, p.kind = .waitlist ∧ p.eventId = evento.id) ↔
      (∃ row ∈ dashboard.db.waitlist, row.eventId = evento.id) ∧ 0 < saldo) ∧
    ∀ p ∈ itens, p.kind = .waitlist → p.eventId = evento.id →
      0 < saldo ∧ p.seatsOpen = some saldo := by
  intro itens saldo
  have asked : evento.id ∈ eventos.map EventoBase.id := List.mem_map_of_mem mem
  have of_item : ∀ p ∈ itens, p.kind = .waitlist → p.eventId = evento.id →
      (∃ row ∈ dashboard.db.waitlist, row.eventId = evento.id) ∧ 0 < saldo ∧
        p.seatsOpen = some saldo := by
    intro p p_mem kind of_event
    obtain ⟨e, e_mem, is⟩ := mem_pendencias_waitlist.mp ⟨p_mem, kind⟩
    obtain ⟨other, other_mem, rfl⟩ := List.mem_map.mp e_mem
    obtain ⟨⟨_, _, waits, open_seats⟩, id_eq, seats⟩ := listaDeEspera_eq_some is
    have same : other = evento :=
      List.inj_on_of_nodup_map ids other_mem mem (id_eq.symm.trans of_event)
    subst same
    refine ⟨waitlist_pos_iff.mp waits, (livres_pos_iff asked).mp open_seats, ?_⟩
    exact seats.trans (congrArg some ((livres_detalhe asked open_seats).mp rfl).symm)
  refine ⟨⟨?_, ?_⟩, fun p p_mem kind of_event => (of_item p p_mem kind of_event).2⟩
  · rintro ⟨p, p_mem, kind, of_event⟩
    have all := of_item p p_mem kind of_event
    exact ⟨all.1, all.2.1⟩
  · rintro ⟨waits, open_seats⟩
    let e := dashboard.detalhe fuso agora (dashboard.grupos porNome (eventos.map EventoBase.id))
      evento
    have taken : e.phase ≠ .finished ∧ gerenciaInscricao perfil todasAsIgrejas ∧ e.waitlist > 0 ∧
        e.livres > 0 :=
      ⟨unfinished, gerencia, waitlist_pos_iff.mpr waits, (livres_pos_iff asked).mpr open_seats⟩
    have listed : ∃ p, e.listaDeEspera (gerenciaInscricao perfil todasAsIgrejas) = some p := by
      unfold EventoDetalhado.listaDeEspera
      rw [if_pos taken]
      exact ⟨_, rfl⟩
    obtain ⟨p, is⟩ := listed
    have e_mem : e ∈ dashboard.detalhar porNome fuso agora eventos := List.mem_map_of_mem mem
    have is_item := mem_pendencias_waitlist.mpr ⟨e, e_mem, is⟩
    exact ⟨p, is_item.1, is_item.2, (listaDeEspera_eq_some is).2.1⟩

theorem PodeChamar.espera (pode : dashboard.PodeChamar evento.id) :
    ∃ row ∈ dashboard.db.waitlist, row.eventId = evento.id := by
  obtain ⟨row, mem, of_event, _⟩ := pode
  exact ⟨row, mem, of_event⟩

/-- For whoever manages registrations, the task of an unfinished event is right exactly when the
sums of the event say what its groups say. -/
theorem pendencias_certas_iff (dashboard : Dashboard) (porNome : String → String → Bool)
    (fuso : Fuso) (agora : Instant) (eventos : List EventoBase) (perfil : Option Int)
    (todasAsIgrejas : Bool) (ids : (eventos.map EventoBase.id).Nodup) (evento : EventoBase)
    (mem : evento ∈ eventos) (unfinished : faseDoEvento fuso agora evento ≠ .finished)
    (gerencia : gerenciaInscricao perfil todasAsIgrejas = true) :
    dashboard.TarefaCerta evento.id
        (pendencias (dashboard.detalhar porNome fuso agora eventos) perfil todasAsIgrejas) ↔
      dashboard.SomasDizem evento.id := by
  obtain ⟨listed, said⟩ := pendencias_espera dashboard porNome ids mem unfinished
    gerencia
  unfold TarefaCerta SomasDizem
  rw [listed]
  have sums := sum_saldo dashboard (dashboard.gruposDoEvento evento.id)
  constructor
  · rintro ⟨right, seats⟩
    constructor
    · intro pode
      obtain ⟨p, p_mem, kind, of_event⟩ := listed.mpr (right.mpr pode)
      have open_seats := (right.mpr pode).2
      have same : some _ = some _ := (said p p_mem kind of_event).2.symm.trans
        (seats p p_mem kind of_event)
      have same := Option.some.inj same
      constructor
      · intro group group_mem
        exact (vagas_eq_saldo_iff group).mp ((sum_saldo_eq_iff _).mp same group group_mem)
      · rw [same] at open_seats
        exact (sum_vagas_pos_iff _).mp open_seats
    · intro nobody
      by_cases waits : ∃ row ∈ dashboard.db.waitlist, row.eventId = evento.id
      · right
        by_contra more
        exact nobody (right.mp ⟨waits, by omega⟩)
      · left
        intro row row_mem of_event
        exact waits ⟨row, row_mem, of_event⟩
  · rintro ⟨somebody, nobody⟩
    by_cases pode : dashboard.PodeChamar evento.id
    · obtain ⟨exact_groups, free⟩ := somebody pode
      have same : ((dashboard.gruposDoEvento evento.id).map dashboard.saldoDoGrupo).sum =
          dashboard.vagasLivres evento.id :=
        (sum_saldo_eq_iff _).mpr fun group group_mem =>
          (vagas_eq_saldo_iff group).mpr (exact_groups group group_mem)
      refine ⟨iff_of_true ⟨pode.espera, ?_⟩ pode, fun p p_mem kind of_event => ?_⟩
      · rw [same]
        exact (sum_vagas_pos_iff _).mpr free
      · rw [(said p p_mem kind of_event).2, same]
    · have closed : ¬ ((∃ row ∈ dashboard.db.waitlist, row.eventId = evento.id) ∧
          0 < ((dashboard.gruposDoEvento evento.id).map dashboard.saldoDoGrupo).sum) := by
        rintro ⟨⟨row, row_mem, of_event⟩, open_seats⟩
        rcases nobody pode with no_row | full
        · exact no_row row row_mem of_event
        · omega
      refine ⟨iff_of_false closed pode, fun p p_mem kind of_event => ?_⟩
      exact absurd (listed.mp ⟨p, p_mem, kind, of_event⟩) closed

end Tarefas

end Dashboard

/-! ### Two groups, one of them without capacity -/

namespace UmaVaga

def semTeto : GroupRoles where
  id := 60
  eventId := 5
  name := "Equipe"
  capacity := none
  active := true
  opensAt := none
  closesAt := none
  roles := [{ id := 61, price := 0, description := "Servo" }]

theorem roles_semTeto :
    ([grupo, semTeto].flatMap fun group => group.roles.map RolesRegistration.id).Nodup := by decide

/-- The second person waits for the place, which is free, and the first serves in the team. -/
def comEquipe : Database :=
  { vazio with
    catalogue :=
      { vazio.catalogue with
        groups := [grupo, semTeto]
        roles_nodup := roles_semTeto }
    eventOnUsers := [{ DoisInscritos.inscricao 1 with rolesRegistration := [⟨61, none⟩] }]
    waitlist := [⟨2, 5, 7⟩] }

def semEquipe : Database := { vazio with waitlist := [⟨2, 5, 7⟩] }

def retiro : EventoBase where
  id := 5
  name := "Retiro"
  startDate := 1000
  endDate := 2000
  status := .active
  church := ⟨1, "Igreja"⟩

def fuso : Fuso := ⟨id, id⟩

def porNome (_ _ : String) : Bool := true

end UmaVaga

namespace Dashboard

/-- With the team empty, the free place is the task. -/
theorem pendencias_certas_semEquipe :
    Dashboard.TarefaCerta ⟨UmaVaga.semEquipe, []⟩ 5
      (pendencias (Dashboard.detalhar ⟨UmaVaga.semEquipe, []⟩ UmaVaga.porNome UmaVaga.fuso 500
        [UmaVaga.retiro]) (some Role.admin) false) := by
  apply (pendencias_certas_iff ⟨UmaVaga.semEquipe, []⟩ UmaVaga.porNome UmaVaga.fuso 500
    [UmaVaga.retiro] (some Role.admin) false (by decide) UmaVaga.retiro (by decide) (by decide)
    (by decide)).mpr
  constructor
  · intro _
    constructor
    · intro group mem
      rw [List.mem_singleton.mp mem]
      exact ⟨fun _ => by decide, fun capacity is => by cases is; decide⟩
    · exact ⟨UmaVaga.grupo, List.mem_singleton_self _, 1, rfl, by decide⟩
  · intro nobody
    refine (nobody ⟨⟨2, 5, 7⟩, List.mem_singleton_self _, rfl, UmaVaga.grupo,
      List.mem_singleton_self _, rfl, ⟨_, List.mem_cons_self, rfl⟩, ?_⟩).elim
    intro capacity is
    cases is
    decide

/-- With somebody in the team, whose group has no capacity, the task is missed. -/
theorem not_pendencias_certas :
    ¬ ∀ (dashboard : Dashboard) (eventos : List EventoBase), (eventos.map EventoBase.id).Nodup →
      ∀ evento ∈ eventos, faseDoEvento UmaVaga.fuso 500 evento ≠ .finished →
        dashboard.TarefaCerta evento.id
          (pendencias (dashboard.detalhar UmaVaga.porNome UmaVaga.fuso 500 eventos)
            (some Role.admin) false) := by
  intro all
  have right := all ⟨UmaVaga.comEquipe, []⟩ [UmaVaga.retiro] (by decide) UmaVaga.retiro
    (List.mem_singleton_self _) (by decide)
  have pode : Dashboard.PodeChamar ⟨UmaVaga.comEquipe, []⟩ UmaVaga.retiro.id := by
    refine ⟨⟨2, 5, 7⟩, List.mem_singleton_self _, rfl, UmaVaga.grupo, List.mem_cons_self, rfl,
      ⟨_, List.mem_cons_self, rfl⟩, ?_⟩
    intro capacity is
    cases is
    decide
  have listed := (pendencias_espera ⟨UmaVaga.comEquipe, []⟩ UmaVaga.porNome
    (by decide) (List.mem_singleton_self UmaVaga.retiro) (by decide)
    (by decide)).1.mp (right.1.mpr pode)
  revert listed
  decide

end Dashboard

end IccvBackend
