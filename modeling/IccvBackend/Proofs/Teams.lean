/-
Module: IccvBackend.Proofs.Teams
Purpose: A person has one role in a team, the one of the last list; and everybody in a team is
  enrolled in its event, exactly in the runs where nobody of a list is out of the event when the
  list is written, and nobody of a team loses the last place to the waiting list.
Trusted boundary: none
Main exports: Equipes.MembrosInscritos, Equipes.Leva, Equipes.ComInscricao, Equipes.EscreveLista,
  Equipes.membros_run
-/
import IccvBackend.Team.Service
import IccvBackend.Lib.Trail
import IccvBackend.Lib.Transitions

namespace IccvBackend.Equipes

open Lib

variable {s s' : Banco} {m : Membro} {dto : TeammDto} {idTeam eventId userId : Id}

/-! ### Invariants -/

/-- Everybody in a team is enrolled in its event. -/
def MembrosInscritos (s : Banco) : Prop :=
  ∀ m ∈ s.membros, ∀ equipe ∈ s.equipes, equipe.id = m.teamId →
    (m.userId, equipe.eventId) ∈ s.inscricoes

/-- A person has one role in a team, and ids are not used twice. -/
structure Regular (s : Banco) : Prop where
  umPapel : (s.membros.map Membro.chave).Nodup
  equipes : Keyed Equipe.id s.proximoId s.equipes
  usados : ∀ m ∈ s.membros, m.teamId < s.proximoId

/-- What was a team stays the team of its event, or goes. -/
structure Sucede (s s' : Banco) : Prop where
  proximoId : s.proximoId ≤ s'.proximoId
  equipes : ∀ equipe' ∈ s'.equipes, equipe'.id < s.proximoId →
    ∃ equipe ∈ s.equipes, equipe.id = equipe'.id ∧ equipe.eventId = equipe'.eventId

/-- What a request knows of the team it found: no other event has it. -/
def Chamada.Certa (s : Banco) : Chamada → Prop
  | .limpando eventId idTeam _ | .gravando eventId idTeam _ =>
      idTeam < s.proximoId ∧ ∀ equipe ∈ s.equipes, equipe.id = idTeam → equipe.eventId = eventId
  | _ => True

theorem Chamada.Certa.sucede {chamada : Chamada} (certa : chamada.Certa s) (depois : Sucede s s') :
    chamada.Certa s' := by
  have carry : ∀ eventId idTeam, (idTeam < s.proximoId ∧ ∀ equipe ∈ s.equipes,
      equipe.id = idTeam → equipe.eventId = eventId) → idTeam < s'.proximoId ∧
        ∀ equipe ∈ s'.equipes, equipe.id = idTeam → equipe.eventId = eventId := by
    rintro eventId idTeam ⟨used, found⟩
    refine ⟨used.trans_le depois.proximoId, fun equipe' mem same => ?_⟩
    obtain ⟨equipe, equipe_mem, id_eq, event_eq⟩ := depois.equipes equipe' mem (same ▸ used)
    rw [← event_eq]
    exact found equipe equipe_mem (id_eq.trans same)
  cases chamada with
  | limpando eventId idTeam dto => exact carry eventId idTeam certa
  | gravando eventId idTeam dto => exact carry eventId idTeam certa
  | _ => trivial

theorem Sucede.refl (s : Banco) : Sucede s s where
  proximoId := le_refl _
  equipes equipe mem _ := ⟨equipe, mem, rfl, rfl⟩

/-- Where a step leads, and what everybody in a team being enrolled after it comes down to. -/
structure Leva (s s' : Banco) (guarda : Prop) : Prop where
  regular : Regular s'
  sucede : Sucede s s'
  inscritos : MembrosInscritos s → (MembrosInscritos s' ↔ guarda)

theorem Leva.congr {guarda guarda' : Prop} (leva : Leva s s' guarda) (same : guarda ↔ guarda') :
    Leva s s' guarda' :=
  ⟨leva.regular, leva.sucede, fun inscritos => (leva.inscritos inscritos).trans same⟩

theorem Leva.refl (regular : Regular s) : Leva s s True :=
  ⟨regular, .refl s, fun inscritos => iff_of_true inscritos trivial⟩

/-! ### What only takes away -/

/-- No member and no team is new. -/
structure Encolhe (s s' : Banco) : Prop where
  membros : s'.membros.Sublist s.membros
  equipes : s'.equipes.Sublist s.equipes
  proximoId : s'.proximoId = s.proximoId

/-- Who stays in a team stays enrolled, where the registrations of who stays do. -/
theorem Encolhe.leva (menos : Encolhe s s') (regular : Regular s)
    (stay : ∀ m ∈ s'.membros, ∀ equipe ∈ s'.equipes, equipe.id = m.teamId →
      (m.userId, equipe.eventId) ∈ s.inscricoes → (m.userId, equipe.eventId) ∈ s'.inscricoes) :
    Leva s s' True where
  regular :=
    { umPapel := regular.umPapel.sublist (menos.membros.map Membro.chave)
      equipes := menos.proximoId ▸ regular.equipes.sublist menos.equipes
      usados := fun m mem => menos.proximoId ▸ regular.usados m (menos.membros.subset mem) }
  sucede := ⟨menos.proximoId.ge, fun equipe mem _ => ⟨equipe, menos.equipes.subset mem, rfl, rfl⟩⟩
  inscritos inscritos := by
    refine iff_of_true (fun m mem equipe equipe_mem same => ?_) trivial
    refine stay m mem equipe equipe_mem same ?_
    exact inscritos m (menos.membros.subset mem) equipe (menos.equipes.subset equipe_mem) same

theorem leva_removerAusentes (regular : Regular s)
    (feito : s.removerAusentes idTeam dto = some s') : Leva s s' True := by
  rw [Banco.removerAusentes] at feito
  split at feito
  · cases feito
    exact Encolhe.leva ⟨List.filter_sublist, .refl _, rfl⟩ regular fun _ _ _ _ _ there => there
  · cases feito

theorem leva_apagarMembros (regular : Regular s) (idTeam : Id) :
    Leva s (s.apagarMembros idTeam) True := by
  have menos : Encolhe s (s.apagarMembros idTeam) := ⟨List.filter_sublist, .refl _, rfl⟩
  exact menos.leva regular fun _ _ _ _ _ there => there

theorem leva_apagarEquipe (regular : Regular s) (feito : s.apagarEquipe idTeam = some s') :
    Leva s s' True := by
  rw [Banco.apagarEquipe] at feito
  split at feito
  · cases feito
    exact Encolhe.leva ⟨.refl _, List.filter_sublist, rfl⟩ regular fun _ _ _ _ _ there => there
  · cases feito

theorem inscrever_rest (s : Banco) (userId eventId : Id) :
    (s.inscrever userId eventId).membros = s.membros ∧
      (s.inscrever userId eventId).equipes = s.equipes ∧
      (s.inscrever userId eventId).proximoId = s.proximoId := by
  rw [Banco.inscrever]
  split
  · exact ⟨rfl, rfl, rfl⟩
  · exact ⟨rfl, rfl, rfl⟩

theorem mem_inscrever {inscricao : Id × Id} : inscricao ∈ (s.inscrever userId eventId).inscricoes ↔
    inscricao ∈ s.inscricoes ∨ (inscricao = (userId, eventId) ∧ eventId ∈ s.eventos) := by
  rw [Banco.inscrever]
  split
  case isTrue new =>
      simp only [Bool.and_eq_true, List.contains_iff_mem] at new
      simp [new.1]
  case isFalse known =>
      simp only [Bool.and_eq_true, List.contains_iff_mem, Bool.not_eq_true', not_and,
        Bool.not_eq_false] at known
      constructor
      · exact .inl
      · rintro (mem | ⟨rfl, there⟩)
        · exact mem
        · exact known there

theorem leva_inscrever (regular : Regular s) (userId eventId : Id) :
    Leva s (s.inscrever userId eventId) True := by
  obtain ⟨membros, equipes, proximoId⟩ := inscrever_rest s userId eventId
  have menos : Encolhe s (s.inscrever userId eventId) :=
    ⟨membros ▸ .refl _, equipes ▸ .refl _, proximoId⟩
  exact menos.leva regular fun _ _ _ _ _ there => mem_inscrever.mpr (.inl there)

theorem doEvento_of_mem {equipe : Equipe} (mem : equipe ∈ s.equipes) :
    s.doEvento equipe.eventId equipe.id = true := by
  rw [Banco.doEvento, List.any_eq_true]
  exact ⟨equipe, mem, by simp⟩

theorem leva_removeUserFromEvent (regular : Regular s) (userId eventId : Id) :
    Leva s (s.removeUserFromEvent userId eventId) True := by
  have menos : Encolhe s (s.removeUserFromEvent userId eventId) :=
    ⟨List.filter_sublist, .refl _, rfl⟩
  refine menos.leva regular fun m mem equipe equipe_mem same there => ?_
  refine List.mem_filter.mpr ⟨there, ?_⟩
  rw [decide_eq_true_iff]
  intro gone
  have out := (List.mem_filter.mp mem).2
  have in_event := doEvento_of_mem (s := s) equipe_mem
  rw [Prod.mk.injEq] at gone
  rw [gone.2, same] at in_event
  simp [gone.1, in_event] at out

theorem leva_removerEvento (regular : Regular s) (eventId : Id) :
    Leva s (s.removerEvento eventId) True := by
  have menos : Encolhe s (s.removerEvento eventId) :=
    ⟨List.filter_sublist, List.filter_sublist, rfl⟩
  refine menos.leva regular fun m mem equipe equipe_mem same there => ?_
  exact List.mem_filter.mpr ⟨there, (List.mem_filter.mp equipe_mem).2⟩

/-! ### The waiting list -/

/-- Whoever loses the last place of an event to the waiting list is in no team of it. -/
def SaiSemEquipe (s : Banco) (userId userRemovedId eventId : Id) (ultima : Bool) : Prop :=
  ultima = true → ¬ (userRemovedId = userId ∧ eventId ∈ s.eventos) →
    ∀ m ∈ s.membros, m.userId = userRemovedId → s.doEvento eventId m.teamId = false

variable {userRemovedId : Id} {ultima : Bool}

theorem moved_rest (s : Banco) (userId userRemovedId eventId : Id) (ultima : Bool) :
    (s.movedUserFromWaitlistToEvent userId userRemovedId eventId ultima).membros = s.membros ∧
      (s.movedUserFromWaitlistToEvent userId userRemovedId eventId ultima).equipes = s.equipes ∧
      (s.movedUserFromWaitlistToEvent userId userRemovedId eventId ultima).proximoId =
        s.proximoId := by
  cases ultima with
  | false => exact inscrever_rest s userId eventId
  | true => exact inscrever_rest (s.semInscricao userRemovedId eventId) userId eventId

theorem mem_moved {inscricao : Id × Id} : inscricao ∈
      (s.movedUserFromWaitlistToEvent userId userRemovedId eventId ultima).inscricoes ↔
    (inscricao ∈ s.inscricoes ∧ (ultima = true → inscricao ≠ (userRemovedId, eventId))) ∨
      (inscricao = (userId, eventId) ∧ eventId ∈ s.eventos) := by
  rw [Banco.movedUserFromWaitlistToEvent, mem_inscrever]
  cases ultima with
  | false => simp
  | true => simp [Banco.semInscricao]

theorem leva_moved (regular : Regular s) (userId userRemovedId eventId : Id) (ultima : Bool) :
    Leva s (s.movedUserFromWaitlistToEvent userId userRemovedId eventId ultima)
      (SaiSemEquipe s userId userRemovedId eventId ultima) := by
  obtain ⟨membros, equipes, proximoId⟩ := moved_rest s userId userRemovedId eventId ultima
  refine ⟨⟨membros ▸ regular.umPapel, ?_, ?_⟩, ⟨proximoId.ge, ?_⟩, fun inscritos => ⟨?_, ?_⟩⟩
  · rw [equipes, proximoId]
    exact regular.equipes
  · rw [membros, proximoId]
    exact regular.usados
  · exact fun equipe mem _ => ⟨equipe, equipes ▸ mem, rfl, rfl⟩
  · intro depois last other m mem same
    by_contra inside
    rw [Bool.not_eq_false, Banco.doEvento, List.any_eq_true] at inside
    obtain ⟨equipe, equipe_mem, is_team⟩ := inside
    rw [decide_eq_true_iff] at is_team
    have there := depois m (membros ▸ mem) equipe (equipes ▸ equipe_mem) is_team.1
    rw [mem_moved, same, is_team.2] at there
    rcases there with ⟨_, kept⟩ | ⟨again, event⟩
    · exact kept last rfl
    · exact other ⟨(Prod.mk.inj again).1, event⟩
  · intro leaves m mem equipe equipe_mem same
    rw [membros] at mem
    rw [equipes] at equipe_mem
    rw [mem_moved]
    by_cases again : (m.userId, equipe.eventId) = (userId, eventId) ∧ eventId ∈ s.eventos
    · exact .inr again
    · refine .inl ⟨inscritos m mem equipe equipe_mem same, fun last gone => ?_⟩
      rw [Prod.mk.injEq] at gone
      have in_event := doEvento_of_mem equipe_mem
      rw [gone.2, same] at in_event
      have out := leaves last (fun back => again ⟨by rw [gone.1, gone.2, back.1], back.2⟩) m mem
        gone.1
      rw [in_event] at out
      cases out

/-! ### Teams that are created and edited -/

theorem leva_criarEquipe (regular : Regular s) (feito : s.criarEquipe eventId dto = some s') :
    Leva s s' True := by
  rw [Banco.criarEquipe] at feito
  split at feito
  · cases feito
    refine ⟨⟨regular.umPapel, regular.equipes.append_fresh rfl, fun m mem => ?_⟩,
      ⟨Nat.le_succ _, fun equipe' mem' old => ?_⟩, fun inscritos => iff_of_true ?_ trivial⟩
    · exact (regular.usados m mem).trans (Nat.lt_succ_self _)
    · rcases List.mem_append.mp mem' with there | new
      · exact ⟨equipe', there, rfl, rfl⟩
      · obtain rfl := List.mem_singleton.mp new
        exact absurd old (lt_irrefl _)
    · intro m mem equipe equipe_mem same
      rcases List.mem_append.mp equipe_mem with old | new
      · exact inscritos m mem equipe old same
      · obtain rfl := List.mem_singleton.mp new
        exact absurd same (regular.usados m mem).ne'
  · cases feito

theorem leva_gravarEquipe (regular : Regular s)
    (found : ∀ equipe ∈ s.equipes, equipe.id = idTeam → equipe.eventId = eventId)
    (feito : s.gravarEquipe eventId idTeam dto = some s') : Leva s s' True := by
  rw [Banco.gravarEquipe] at feito
  split at feito
  · cases feito
    have origin : ∀ equipe' ∈ updateKey Equipe.id idTeam
        (fun equipe => { equipe with eventId, name := dto.name, note := dto.note,
                                     capacity := dto.capacity }) s.equipes,
        ∃ equipe ∈ s.equipes, equipe.id = equipe'.id ∧ equipe.eventId = equipe'.eventId := by
      intro equipe' mem
      rcases mem_updateKey.mp mem with ⟨old, old_mem, same, rfl⟩ | ⟨kept, _⟩
      · exact ⟨old, old_mem, rfl, found old old_mem same⟩
      · exact ⟨equipe', kept, rfl, rfl⟩
    refine ⟨⟨regular.umPapel, ?_, regular.usados⟩,
      ⟨le_refl _, fun equipe' mem' _ => origin equipe' mem'⟩, fun inscritos =>
        iff_of_true ?_ trivial⟩
    · refine regular.equipes.map fun equipe => ?_
      split <;> rfl
    · intro m mem equipe' mem' same
      obtain ⟨equipe, equipe_mem, id_eq, event_eq⟩ := origin equipe' mem'
      rw [← event_eq]
      exact inscritos m mem equipe equipe_mem (id_eq.trans same)
  · cases feito

/-! ### The list of a team -/

theorem mem_pessoas : userId ∈ dto.pessoas ↔ IdRecebido.id userId ∈ dto.todos := by
  rw [TeammDto.pessoas, List.mem_eraseDups, List.mem_filterMap]
  constructor
  · rintro ⟨item, mem, is_id⟩
    cases item with
    | id other =>
        obtain rfl := Option.some.inj is_id
        exact mem
    | vazio | nulo | outro => cases is_id
  · exact fun mem => ⟨.id userId, mem, rfl⟩

theorem mem_uniqueUsers : m ∈ dto.uniqueUsers idTeam ↔
    m.userId ∈ dto.pessoas ∧ m.teamId = idTeam ∧ m.role = dto.papel m.userId := by
  rw [TeammDto.uniqueUsers, List.mem_map]
  constructor
  · rintro ⟨userId, mem, rfl⟩
    exact ⟨mem, rfl, rfl⟩
  · rintro ⟨mem, rfl, role⟩
    exact ⟨m.userId, mem, by rw [← role]⟩

theorem chaves_uniqueUsers : ((dto.uniqueUsers idTeam).map Membro.chave).Nodup := by
  rw [TeammDto.uniqueUsers, List.map_map]
  refine List.Nodup.map (fun a b same => ?_) (nodup_eraseDups _)
  exact (Prod.mk.inj same).1

theorem createRelations_rest (feito : s.createRelations idTeam dto = some s') :
    (s.equipe? idTeam).isSome ∧ s'.membros =
        (dto.uniqueUsers idTeam).foldl (fun rows m => upsert Membro.chave m rows) s.membros ∧
      s'.equipes = s.equipes ∧ s'.inscricoes = s.inscricoes ∧ s'.proximoId = s.proximoId := by
  rw [Banco.createRelations] at feito
  split at feito
  case isTrue takes =>
      cases feito
      exact ⟨(Bool.and_eq_true _ _ ▸ takes).1, rfl, rfl, rfl, rfl⟩
  case isFalse => cases feito

/-- The team has the rows of the list, and keeps those of who is not in it. -/
theorem mem_createRelations (regular : Regular s) (feito : s.createRelations idTeam dto = some s') :
    (s'.membros.map Membro.chave).Nodup ∧ ∀ m, m ∈ s'.membros ↔
      m ∈ dto.uniqueUsers idTeam ∨
        (m ∈ s.membros ∧ ¬ (m.teamId = idTeam ∧ m.userId ∈ dto.pessoas)) := by
  obtain ⟨_, membros, _, _, _⟩ := createRelations_rest feito
  have nodup : (s'.membros.map Membro.chave).Nodup := by
    rw [membros]
    exact nodup_foldl_upsert _ regular.umPapel
  refine ⟨nodup, fun m => ?_⟩
  have found : m ∈ s'.membros ↔ lookup Membro.chave m.chave s'.membros = some m := by
    rw [lookup_eq_some_iff nodup]
    exact (and_iff_left rfl).symm
  rw [found, membros, lookup_foldl_upsert chaves_uniqueUsers]
  cases listed : lookup Membro.chave m.chave (dto.uniqueUsers idTeam) with
  | some other =>
      have other_mem := lookup_mem listed
      have keys : other.chave = m.chave := lookup_key listed
      rw [Membro.chave, Membro.chave, Prod.mk.injEq] at keys
      have row := mem_uniqueUsers.mp other_mem
      rw [Option.some_or]
      constructor
      · rintro same
        exact .inl (Option.some.inj same ▸ other_mem)
      · rintro (mem | ⟨_, outside⟩)
        · exact (lookup_eq_some_iff chaves_uniqueUsers).mpr ⟨mem, rfl⟩ ▸ listed.symm
        · exact absurd ⟨keys.2 ▸ row.2.1, keys.1 ▸ row.1⟩ outside
  | none =>
      have absent := lookup_eq_none_iff.mp listed
      rw [Option.none_or, lookup_eq_some_iff regular.umPapel]
      constructor
      · rintro ⟨mem, _⟩
        refine .inr ⟨mem, fun ⟨team, person⟩ => ?_⟩
        exact absent ⟨m.userId, m.teamId, dto.papel m.userId⟩
          (mem_uniqueUsers.mpr ⟨person, team, rfl⟩) rfl
      · rintro (mem | ⟨mem, _⟩)
        · exact absurd rfl (absent m mem)
        · exact ⟨mem, rfl⟩

/-- Everybody of the list is enrolled in the event of the team. -/
def ListaInscrita (s : Banco) (idTeam : Id) (dto : TeammDto) : Prop :=
  ∀ userId ∈ dto.pessoas, ∀ equipe ∈ s.equipes, equipe.id = idTeam →
    (userId, equipe.eventId) ∈ s.inscricoes

theorem leva_createRelations (regular : Regular s)
    (feito : s.createRelations idTeam dto = some s') : Leva s s' (ListaInscrita s idTeam dto) := by
  obtain ⟨nodup, members⟩ := mem_createRelations regular feito
  obtain ⟨there, _, equipes, inscricoes, proximoId⟩ := createRelations_rest feito
  refine ⟨⟨nodup, ?_, fun m mem => ?_⟩, ⟨proximoId.ge, fun equipe mem _ => ?_⟩,
    fun inscritos => ⟨?_, ?_⟩⟩
  · rw [equipes, proximoId]
    exact regular.equipes
  · rw [proximoId]
    rcases (members m).mp mem with listed | ⟨kept, _⟩
    · obtain ⟨equipe, found⟩ := Option.isSome_iff_exists.mp there
      rw [(mem_uniqueUsers.mp listed).2.1, ← lookup_key found]
      exact regular.equipes.lt_next equipe (lookup_mem found)
    · exact regular.usados m kept
  · exact ⟨equipe, equipes ▸ mem, rfl, rfl⟩
  · intro depois userId listed equipe mem same
    rw [← inscricoes]
    exact depois ⟨userId, idTeam, dto.papel userId⟩
      ((members _).mpr (.inl (mem_uniqueUsers.mpr ⟨listed, rfl, rfl⟩))) equipe (equipes ▸ mem) same
  · intro enrolled m mem equipe equipe_mem same
    rw [inscricoes]
    rw [equipes] at equipe_mem
    rcases (members m).mp mem with listed | ⟨kept, _⟩
    · obtain ⟨person, team, _⟩ := mem_uniqueUsers.mp listed
      exact enrolled m.userId person equipe equipe_mem (same.trans team)
    · exact inscritos m kept equipe equipe_mem same

/-! ### Statements of a request -/

section Chamadas

variable {desfecho : Desfecho} {chamada depois : Chamada} {escrito : Option Banco}
  {recusa : Failure} {guarda : Prop}

/-- A statement leads where its write does, when it wrote. -/
theorem leva_escrita (regular : Regular s)
    (writes : ∀ novo, escrito = some novo → Leva s novo guarda) :
    Leva s (escrita recusa desfecho s escrito depois).1
      (gravou desfecho = true → escrito.isSome → guarda) := by
  cases escrito with
  | none => exact (Leva.refl regular).congr (iff_of_true trivial nofun)
  | some novo =>
      simp only [escrita]
      by_cases wrote : gravou desfecho = true
      · rw [if_pos wrote]
        exact (writes novo rfl).congr ⟨fun holds _ _ => holds, fun holds => holds wrote rfl⟩
      · rw [if_neg wrote]
        exact (Leva.refl regular).congr (iff_of_true trivial fun written => absurd written wrote)

/-- A write that keeps everybody enrolled does so however the statement ends. -/
theorem leva_escrita_true (regular : Regular s)
    (writes : ∀ novo, escrito = some novo → Leva s novo True) :
    Leva s (escrita recusa desfecho s escrito depois).1 True := by
  have here : Leva s (escrita recusa desfecho s escrito depois).1
      (gravou desfecho = true → escrito.isSome → True) := leva_escrita regular writes
  exact here.congr (iff_of_true (fun _ _ => trivial) trivial)

theorem certa_escrita (certa : depois.Certa s') :
    (escrita recusa desfecho s escrito depois).2.Certa s' := by
  unfold escrita
  cases escrito with
  | none => trivial
  | some novo =>
      dsimp only
      split
      · exact certa
      · trivial

/-- The list of a team is written with everybody in it enrolled. -/
def ListaNaHora (s : Banco) (desfecho : Desfecho) : Chamada → Prop
  | .vinculando idTeam dto =>
      gravou desfecho = true → (s.createRelations idTeam dto).isSome → ListaInscrita s idTeam dto
  | _ => True

theorem leva_avancar (regular : Regular s) (certa : chamada.Certa s) (desfecho : Desfecho) :
    Leva s (avancar desfecho s chamada).1 (ListaNaHora s desfecho chamada) := by
  cases chamada with
  | conferindo eventId idTeam dto =>
      unfold avancar
      dsimp only
      split <;> exact .refl regular
  | procurando eventId idTeam dto =>
      unfold avancar
      dsimp only
      split <;> exact .refl regular
  | criando eventId dto =>
      exact leva_escrita_true regular fun novo feito => leva_criarEquipe regular feito
  | limpando eventId idTeam dto =>
      exact leva_escrita_true regular fun novo feito => leva_removerAusentes regular feito
  | gravando eventId idTeam dto =>
      exact leva_escrita_true regular fun novo feito => leva_gravarEquipe regular certa.2 feito
  | vinculando idTeam dto =>
      exact leva_escrita regular fun novo feito => leva_createRelations regular feito
  | esvaziando idTeam =>
      refine leva_escrita_true regular fun novo feito => ?_
      obtain rfl := Option.some.inj feito
      exact leva_apagarMembros regular idTeam
  | apagando idTeam =>
      exact leva_escrita_true regular fun novo feito => leva_apagarEquipe regular feito
  | fim resultado => exact .refl regular

/-- A request goes on with what it knows of its team. -/
theorem certa_avancar (regular : Regular s) (certa : chamada.Certa s) (desfecho : Desfecho) :
    (avancar desfecho s chamada).2.Certa (avancar desfecho s chamada).1 := by
  have depois := (leva_avancar regular certa desfecho).sucede
  cases chamada with
  | conferindo eventId idTeam dto =>
      unfold avancar
      dsimp only
      split <;> trivial
  | procurando eventId idTeam dto =>
      unfold avancar
      dsimp only
      split
      case isTrue found =>
          rw [Banco.noEvento, Option.any_eq_true] at found
          obtain ⟨equipe, there, event⟩ := found
          have there' := (lookup_eq_some_iff regular.equipes.nodup).mp there
          refine ⟨there'.2 ▸ regular.equipes.lt_next equipe there'.1, fun other mem same => ?_⟩
          obtain rfl := Option.some.inj
            (((lookup_eq_some_iff regular.equipes.nodup).mpr ⟨mem, same⟩).symm.trans there)
          exact decide_eq_true_iff.mp event
      case isFalse => trivial
  | limpando eventId idTeam dto =>
      have knows : (Chamada.gravando eventId idTeam dto).Certa s := certa
      exact certa_escrita (knows.sucede depois)
  | criando eventId dto => exact certa_escrita trivial
  | gravando eventId idTeam dto => exact certa_escrita trivial
  | vinculando idTeam dto => exact certa_escrita trivial
  | esvaziando idTeam => exact certa_escrita trivial
  | apagando idTeam => exact certa_escrita trivial
  | fim resultado => trivial

end Chamadas

/-! ### Runs -/

/-- A state of a run, with what its requests know. -/
structure EmDia (t : Sistema) : Prop where
  regular : Regular t.banco
  chamadas : ∀ chamada ∈ t.chamadas, chamada.Certa t.banco

/-- The list of a team is written with everybody in it enrolled, and whoever loses the last place of
an event to the waiting list is in no team of it. -/
def ComInscricao (t : Sistema) : Acao → Prop
  | .avancar k desfecho => ∀ chamada, t.chamadas[k]? = some chamada →
      ListaNaHora t.banco desfecho chamada
  | .movedUserFromWaitlistToEvent userId userRemovedId eventId ultima =>
      SaiSemEquipe t.banco userId userRemovedId eventId ultima
  | _ => True

section Passos

variable {t : Sistema} {chamada : Chamada} {banco : Banco} {guarda : Prop}

theorem EmDia.iniciar (emDia : EmDia t) (certa : chamada.Certa t.banco) :
    EmDia (t.iniciar chamada) where
  regular := emDia.regular
  chamadas other mem := by
    rcases List.mem_append.mp mem with old | new
    · exact emDia.chamadas other old
    · exact List.mem_singleton.mp new ▸ certa

theorem EmDia.comBanco (emDia : EmDia t) (leva : Leva t.banco banco guarda) :
    EmDia (t.comBanco banco) :=
  ⟨leva.regular, fun chamada mem => (emDia.chamadas chamada mem).sucede leva.sucede⟩

theorem leva_step (emDia : EmDia t) (acao : Acao) :
    Leva t.banco (step t acao).banco (ComInscricao t acao) := by
  have same := Leva.refl emDia.regular
  cases acao with
  | create eventId dto =>
      unfold step
      dsimp only
      split <;> exact same
  | update eventId idTeam dto => exact same
  | delete idTeam eventId =>
      unfold step
      dsimp only
      split <;> exact same
  | avancar k desfecho =>
      cases found : t.chamadas[k]? with
      | none =>
          simp only [step, ComInscricao, found]
          exact same.congr (iff_of_true trivial nofun)
      | some chamada =>
          simp only [step, ComInscricao, found]
          have certa := emDia.chamadas chamada (List.mem_of_getElem? found)
          refine (leva_avancar emDia.regular certa desfecho).congr ⟨?_, fun holds =>
            holds chamada rfl⟩
          intro holds other is
          exact Option.some.inj is ▸ holds
  | inscrever userId eventId => exact leva_inscrever emDia.regular userId eventId
  | removeUserFromEvent userId eventId =>
      exact leva_removeUserFromEvent emDia.regular userId eventId
  | movedUserFromWaitlistToEvent userId userRemovedId eventId ultima =>
      exact leva_moved emDia.regular userId userRemovedId eventId ultima
  | criarEvento eventId =>
      exact Encolhe.leva ⟨.refl _, .refl _, rfl⟩ emDia.regular fun _ _ _ _ _ there => there
  | removerEvento eventId => exact leva_removerEvento emDia.regular eventId
  | modulos desligados =>
      exact Encolhe.leva ⟨.refl _, .refl _, rfl⟩ emDia.regular fun _ _ _ _ _ there => there

theorem emDia_step (emDia : EmDia t) (acao : Acao) : EmDia (step t acao) := by
  have leva := leva_step emDia acao
  cases acao with
  | create eventId dto =>
      unfold step
      dsimp only
      split <;> exact emDia.iniciar trivial
  | update eventId idTeam dto => exact emDia.iniciar trivial
  | delete idTeam eventId =>
      unfold step
      dsimp only
      split <;> exact emDia.iniciar trivial
  | avancar k desfecho =>
      refine ⟨leva.regular, ?_⟩
      cases found : t.chamadas[k]? with
      | none =>
          simp only [step, found]
          exact emDia.chamadas
      | some chamada =>
          have certa := emDia.chamadas chamada (List.mem_of_getElem? found)
          have sucede := (leva_avancar emDia.regular certa desfecho).sucede
          simp only [step, found]
          intro other mem
          rcases List.mem_or_eq_of_mem_set mem with old | rfl
          · exact (emDia.chamadas other old).sucede sucede
          · exact certa_avancar emDia.regular certa desfecho
  | inscrever | removeUserFromEvent | movedUserFromWaitlistToEvent | criarEvento | removerEvento
  | modulos => exact emDia.comBanco leva

theorem emDia_vazio : EmDia Sistema.vazio :=
  ⟨⟨.nil, Keyed.nil, nofun⟩, nofun⟩

end Passos

/-- A list that is written gives each of its people the role it says, and leaves everybody else as
they were. -/
def EscreveLista (t : Sistema) : Acao → Prop
  | .avancar k desfecho => ∀ idTeam dto, t.chamadas[k]? = some (.vinculando idTeam dto) →
      gravou desfecho = true → (t.banco.createRelations idTeam dto).isSome →
        ∀ m, m ∈ (step t (.avancar k desfecho)).banco.membros ↔
          m ∈ dto.uniqueUsers idTeam ∨
            (m ∈ t.banco.membros ∧ ¬ (m.teamId = idTeam ∧ m.userId ∈ dto.pessoas))
  | _ => True

theorem escreveLista_of_emDia {t : Sistema} (emDia : EmDia t) (acao : Acao) :
    EscreveLista t acao := by
  cases acao with
  | avancar k desfecho =>
      intro idTeam dto found wrote takes
      obtain ⟨novo, feito⟩ := Option.isSome_iff_exists.mp takes
      have after : (step t (.avancar k desfecho)).banco = novo := by
        simp only [step, found, avancar, escrita, feito, if_pos wrote]
      rw [after]
      exact (mem_createRelations emDia.regular feito).2
  | _ => trivial

/-- In every run a person has one role in a team, the one of the last list; and everybody in a team
is enrolled in its event in exactly the runs where nobody of a list is out of the event when the
list is written, and nobody of a team loses the last place to the waiting list. -/
theorem membros_run (acoes : List Acao) :
    Always step (fun t => (t.banco.membros.map Membro.chave).Nodup) Sistema.vazio acoes ∧
      EachStep step EscreveLista Sistema.vazio acoes ∧
      (Always step (fun t => MembrosInscritos t.banco) Sistema.vazio acoes ↔
        EachStep step ComInscricao Sistema.vazio acoes) := by
  have emDia : Always step EmDia Sistema.vazio acoes :=
    always_of_step (P := EmDia) (fun _ acao here => emDia_step here acao) emDia_vazio acoes
  refine ⟨emDia.mono fun _ here => here.regular.umPapel,
    emDia.eachStep fun _ acao here => escreveLista_of_emDia here acao, ?_⟩
  refine always_iff_eachStep_of_invariant (I := fun t => EmDia t ∧ MembrosInscritos t.banco)
    (fun _ here => here.2) (fun t acao here guarded => ?_) (fun t acao here depois => ?_)
    ⟨emDia_vazio, nofun⟩
  · have leva := leva_step here.1 acao
    exact ⟨emDia_step here.1 acao, (leva.inscritos here.2).mpr guarded⟩
  · exact ((leva_step here.1 acao).inscritos here.2).mp depois

/-- Somebody of a team gives the place to the waiting list, and stays in the team. -/
example : ¬ MembrosInscritos (runFrom step Sistema.vazio
    [.criarEvento 1, .inscrever 7 1, .create 1 ⟨"Louvor", none, 5, [.id 7], []⟩, .avancar 0 .ok,
      .avancar 0 .ok, .avancar 0 .ok, .movedUserFromWaitlistToEvent 8 7 1 true]).banco := by
  unfold MembrosInscritos
  decide +kernel

end IccvBackend.Equipes
