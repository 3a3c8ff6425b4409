/-
Module: IccvBackend.Proofs.RoomStatements
Purpose: With nothing failing, `create` and `update` statement by statement do to the tables what
  `Hospedagem.createBedroom` and `Hospedagem.updateBedroom` do at once.
Trusted boundary: none
Main exports: BedroomDto.completo, AmbienteDosQuartos.Calmo, BancoDeQuartos.hospedagem_create,
  BancoDeQuartos.hospedagem_update
-/
import Mathlib.Data.List.Dedup
import IccvBackend.Bedrooms.Service

namespace IccvBackend

open Lib

/-- The form as it comes, from the one of ids and a whole capacity. -/
def BedroomDto.completo (dto : BedroomDto) (note : Option (Option String)) (tags : List String) :
    QuartoDto where
  note := note
  name := dto.name
  capacity := dto.capacity
  tags := tags.map some
  groupTags := dto.groupTags
  usersId := dto.usersId.map IdRecebido.id

/-- Every statement is taken, and no value that fits is refused. -/
structure AmbienteDosQuartos.Calmo (amb : AmbienteDosQuartos) : Prop where
  leitura : ∀ passo, amb.leitura passo = pure ()
  escrita : ∀ passo, amb.escrita passo = .ok

namespace BancoDeQuartos

variable {amb : AmbienteDosQuartos} {s : BancoDeQuartos} {idEvent idBedroom : Id} {dto : BedroomDto}
  {note : Option (Option String)} {tags : List String} {checkins : List Checkin} {ids : List Id}

/-! ### The list of ids -/

theorem id_injective : Function.Injective IdRecebido.id := fun _ _ same => IdRecebido.id.inj same

theorem all_texto : ((ids.map IdRecebido.id).all IdRecebido.texto) = true := by
  rw [List.all_map, List.all_eq_true]
  intro u _
  rfl

theorem pessoas_map : pessoas (ids.map IdRecebido.id) = ids := by
  rw [pessoas, List.filterMap_map]
  exact List.filterMap_some

theorem contains_map (u : Id) : (ids.map IdRecebido.id).contains (.id u) = ids.contains u := by
  rw [Bool.eq_iff_iff, List.contains_iff_mem, List.contains_iff_mem]
  exact List.mem_map_of_injective id_injective

theorem cabem_map : cabem (ids.map IdRecebido.id) = decide ids.Nodup := by
  have people : ((ids.map IdRecebido.id).all fun item => item.id?.isSome) = true := by
    rw [List.all_map, List.all_eq_true]
    intro u _
    rfl
  rw [cabem, people, Bool.and_true]
  exact decide_eq_decide.mpr (List.nodup_map_iff id_injective)

/-! ### The checks -/

theorem assertUsersNoEvento_map (calmo : amb.Calmo) :
    s.assertUsersNoEvento amb idEvent (ids.map IdRecebido.id) =
      (s.hospedagem checkins).assertUsersNoEvento idEvent ids := by
  have listed : (ids.map IdRecebido.id).dedup.filter IdRecebido.presente =
      ids.dedup.map IdRecebido.id := by
    rw [List.dedup_map_of_injective id_injective, List.filter_eq_self]
    intro item mem
    obtain ⟨u, _, rfl⟩ := List.mem_map.mp mem
    rfl
  rw [BancoDeQuartos.assertUsersNoEvento, listed, all_texto, pessoas_map, calmo.leitura]
  by_cases nobody : ids.dedup = []
  · simp [nobody, Hospedagem.assertUsersNoEvento, failIf, pure, Except.pure]
  · have not_empty : (ids.dedup.map IdRecebido.id).isEmpty = false := by simpa using nobody
    rw [not_empty]
    simp [failIf, Hospedagem.assertUsersNoEvento, List.dedup_idem, hospedagem, pure, Except.pure,
      bind, Except.bind]

theorem assertUsersAllowed_map (calmo : amb.Calmo) (groupTags : Option (List String)) :
    s.assertUsersAllowed amb idEvent groupTags (ids.map IdRecebido.id) =
      (s.hospedagem checkins).assertUsersAllowed idEvent groupTags ids := by
  have outside (tags : List String) : (ids.map IdRecebido.id).filter (fun item =>
      !item.id?.any fun userId =>
        tags.any fun tag => tag ∈ (s.hospedagem []).gruposDe idEvent userId) =
      (ids.filter fun userId =>
        !tags.any fun tag => tag ∈ (s.hospedagem checkins).gruposDe idEvent userId).map
          IdRecebido.id := by
    rw [List.filter_map]
    rfl
  rw [BancoDeQuartos.assertUsersAllowed, Hospedagem.assertUsersAllowed]
  simp only [outside, all_texto, calmo.leitura, List.mem_map_of_injective id_injective]
  generalize (groupTags.getD []).filter (fun tag => tag ≠ "") = tags
  generalize leftover : ids.filter (fun userId =>
    !tags.any fun tag => tag ∈ (s.hospedagem checkins).gruposDe idEvent userId) = fora
  by_cases open_to_all : tags = []
  · simp [open_to_all, failIf, pure, Except.pure]
  by_cases nobody : ids = []
  · rw [nobody, List.filter_nil] at leftover
    simp [nobody, ← leftover, failIf, pure, Except.pure]
  have restricted : (tags.isEmpty || (ids.map IdRecebido.id).isEmpty) = false := by
    simp [open_to_all, nobody]
  rw [restricted]
  by_cases all_in : fora = []
  · simp [all_in, failIf, pure, Except.pure, bind, Except.bind]
  · simp [all_in, open_to_all, failIf, hospedagem, pure, Except.pure, bind, Except.bind, throw,
      throwThe, MonadExceptOf.throw]

theorem conferirCriacao_completo (calmo : amb.Calmo) :
    s.conferirCriacao amb idEvent (dto.completo note tags) = (do
      failIf (¬ (s.hospedagem checkins).moduloAtivo idEvent)
        (badRequest "O módulo Quartos está desligado neste evento")
      (s.hospedagem checkins).assertUsersNoEvento idEvent dto.usersId
      (s.hospedagem checkins).assertUsersAllowed idEvent dto.groupTags dto.usersId) := by
  rw [conferirCriacao, calmo.leitura, BedroomDto.completo, assertUsersNoEvento_map calmo,
    assertUsersAllowed_map calmo]
  rfl

theorem conferirEdicao_completo (calmo : amb.Calmo) :
    s.conferirEdicao amb idEvent idBedroom (dto.completo note tags) = (do
      let _ ← orFail ((s.hospedagem checkins).bedrooms.find? fun row =>
        row.id = idBedroom && row.eventId = idEvent) (notFound "Bedroom does not exists!")
      (s.hospedagem checkins).assertUsersNoEvento idEvent dto.usersId
      (s.hospedagem checkins).assertUsersAllowed idEvent dto.groupTags dto.usersId) := by
  have found : (s.hospedagem checkins).bedrooms.find?
      (fun row => row.id = idBedroom && row.eventId = idEvent) =
        (s.quartos.find? fun quarto => quarto.id = idBedroom && quarto.eventId = idEvent).map
          Quarto.toBedroom := by
    rw [hospedagem, List.find?_map]
    rfl
  rw [conferirEdicao, calmo.leitura, BedroomDto.completo, assertUsersNoEvento_map calmo,
    assertUsersAllowed_map calmo, found]
  cases s.quartos.find? fun quarto => quarto.id = idBedroom && quarto.eventId = idEvent with
  | none => rfl
  | some quarto => rfl

/-! ### The writes -/

/-- A capacity the column holds is all that the database could refuse of the form. -/
theorem aceito_completo (cabe : -2147483648 ≤ dto.capacity ∧ dto.capacity ≤ 2147483647) :
    (dto.completo note tags).aceito = true := by
  have texts : ((tags.map some).all Option.isSome) = true := by
    rw [List.all_map, List.all_eq_true]
    intro tag _
    rfl
  simp [QuartoDto.aceito, BedroomDto.completo, texts, cabe.1, cabe.2]

theorem novos_map :
    s.novos (ids.map IdRecebido.id) idBedroom =
      (ids.filter fun id =>
        !s.ocupacoes.any fun row => row.userId = id && row.bedroomsId = idBedroom).map
          IdRecebido.id := by
  rw [novos, List.filter_map]
  congr 1
  apply List.filter_congr
  intro id _
  simp

/-- The rows of the people who are new enter together, or none does. -/
theorem hospedagem_createRelations (calmo : amb.Calmo) :
    (s.createRelations amb (ids.map IdRecebido.id) idBedroom).1.hospedagem checkins =
      ((s.hospedagem checkins).createRelations ids idBedroom).getD (s.hospedagem checkins) := by
  have read : lerOcupantes amb (ids.map IdRecebido.id) = .ok () := by
    rw [lerOcupantes, all_texto, calmo.leitura]
    rfl
  rw [BancoDeQuartos.createRelations, read, novos_map, Hospedagem.createRelations]
  rw [show (s.hospedagem checkins).bedroomsOnUsers = s.ocupacoes from rfl]
  generalize (ids.filter fun id =>
    !s.ocupacoes.any fun row => row.userId = id && row.bedroomsId = idBedroom) = filterIds
  by_cases nobody : filterIds = []
  · simp [nobody, hospedagem]
  have somebody : (filterIds.map IdRecebido.id).isEmpty = false := by simpa using nobody
  by_cases once : filterIds.Nodup
  · have fits : cabem (filterIds.map IdRecebido.id) = true := by
      rw [cabem_map]
      exact decide_eq_true once
    simp only [somebody, fits, AmbienteDosQuartos.desfecho, calmo.escrita, escrever, incluir,
      pessoas_map, once, if_true, Bool.false_eq_true, if_false, Option.getD_some]
    rfl
  · have refused : cabem (filterIds.map IdRecebido.id) = false := by
      rw [cabem_map]
      exact decide_eq_false once
    simp only [somebody, refused, AmbienteDosQuartos.desfecho, escrever, once, Bool.false_eq_true,
      if_false, Option.getD_none]

/-! ### The requests -/

/-- What is returned after three checks passes through them. -/
theorem pure_after_checks {α β : Type} {first : Except Failure α}
    {second third : Except Failure Unit} {result : β} :
    (do
      let _ ← first
      second
      third
      pure result) = (do
      let _ ← first
      second
      third).map fun _ => result := by
  cases first with
  | error falhou => rfl
  | ok found =>
      cases second with
      | error falhou => rfl
      | ok passed =>
          cases third with
          | error falhou => rfl
          | ok allowed => rfl

/-- A creation with nothing failing: the answer aside, the tables are those of the model in which
the whole request is one step. -/
theorem hospedagem_create (calmo : amb.Calmo)
    (cabe : -2147483648 ≤ dto.capacity ∧ dto.capacity ≤ 2147483647) :
    (s.hospedagem checkins).createBedroom idEvent dto =
      (s.conferirCriacao amb idEvent (dto.completo note tags)).map fun _ =>
        (s.create amb idEvent (dto.completo note tags)).1.hospedagem checkins := by
  have created : (s.comQuarto idEvent (dto.completo note tags)).hospedagem checkins =
      { s.hospedagem checkins with
        proximoQuarto := s.proximoQuarto + 1
        bedrooms := (s.hospedagem checkins).bedrooms ++
          [⟨s.proximoQuarto, idEvent, dto.name, some dto.capacity, dto.groupTags.getD []⟩] } := by
    simp [hospedagem, comQuarto, QuartoDto.gravar, BedroomDto.completo]
  have written : AmbienteDosQuartos.desfecho amb .quarto (dto.completo note tags).aceito = .ok := by
    rw [AmbienteDosQuartos.desfecho, if_pos (aceito_completo cabe), calmo.escrita]
  have at_once : (s.hospedagem checkins).createBedroom idEvent dto =
      (s.conferirCriacao amb idEvent (dto.completo note tags)).map fun _ =>
        ((s.comQuarto idEvent (dto.completo note tags)).createRelations amb
          (dto.usersId.map IdRecebido.id) s.proximoQuarto).1.hospedagem checkins := by
    rw [hospedagem_createRelations calmo, created, conferirCriacao_completo calmo,
      Hospedagem.createBedroom]
    exact pure_after_checks
  rw [at_once, create, written]
  cases s.conferirCriacao amb idEvent (dto.completo note tags) with
  | error falhou => rfl
  | ok visto => rfl

theorem hospedagem_update (calmo : amb.Calmo)
    (cabe : -2147483648 ≤ dto.capacity ∧ dto.capacity ≤ 2147483647) :
    (s.hospedagem checkins).updateBedroom idEvent idBedroom dto =
      (s.conferirEdicao amb idEvent idBedroom (dto.completo note tags)).map fun _ =>
        (s.update amb idEvent idBedroom (dto.completo note tags)).1.hospedagem checkins := by
  have rewritten : ((s.removerAusentes idBedroom (dto.usersId.map IdRecebido.id)).gravarQuarto
      idEvent idBedroom (dto.completo note tags)).hospedagem checkins =
      { s.hospedagem checkins with
        bedroomsOnUsers := s.ocupacoes.filter fun row =>
          !(row.bedroomsId = idBedroom && !dto.usersId.contains row.userId)
        bedrooms := (s.hospedagem checkins).bedrooms.map fun row =>
          if row.id = idBedroom then
            { row with
              eventId := idEvent
              name := dto.name
              capacity := some dto.capacity
              groupTags := dto.groupTags.getD [] }
          else row } := by
    have rows : (s.quartos.map fun quarto =>
        if quarto.id = idBedroom then (dto.completo note tags).gravar idEvent
          quarto else quarto).map
          Quarto.toBedroom = (s.quartos.map Quarto.toBedroom).map fun row =>
            if row.id = idBedroom then
              ⟨row.id, idEvent, dto.name, some dto.capacity, dto.groupTags.getD []⟩
            else row := by
      rw [List.map_map, List.map_map]
      apply List.map_congr_left
      intro quarto _
      by_cases here : quarto.id = idBedroom
      · simp [here, QuartoDto.gravar, BedroomDto.completo]
      · simp [here]
    simp only [hospedagem, gravarQuarto, removerAusentes, rows, contains_map]
  have removed : AmbienteDosQuartos.desfecho amb .saidas
      ((dto.completo note tags).usersId.all IdRecebido.texto) = .ok := by
    rw [BedroomDto.completo, AmbienteDosQuartos.desfecho, if_pos all_texto, calmo.escrita]
  have written : AmbienteDosQuartos.desfecho amb .quarto (dto.completo note tags).aceito = .ok := by
    rw [AmbienteDosQuartos.desfecho, if_pos (aceito_completo cabe), calmo.escrita]
  have at_once : (s.hospedagem checkins).updateBedroom idEvent idBedroom dto =
      (s.conferirEdicao amb idEvent idBedroom (dto.completo note tags)).map fun _ =>
        (((s.removerAusentes idBedroom (dto.usersId.map IdRecebido.id)).gravarQuarto
          idEvent idBedroom
          (dto.completo note tags)).createRelations amb (dto.usersId.map IdRecebido.id)
            idBedroom).1.hospedagem checkins := by
    rw [hospedagem_createRelations calmo, rewritten, conferirEdicao_completo calmo,
      Hospedagem.updateBedroom]
    exact pure_after_checks
  rw [at_once, update, removed, written]
  cases s.conferirEdicao amb idEvent idBedroom (dto.completo note tags) with
  | error falhou => rfl
  | ok visto => rfl

end BancoDeQuartos

end IccvBackend
