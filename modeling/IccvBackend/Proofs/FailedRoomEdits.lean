/-
Module: IccvBackend.Proofs.FailedRoomEdits
Purpose: When a bedroom that could not be created or edited is left as it was, statement by
  statement.
Trusted boundary: none
Main exports: BancoDeQuartos.Intacto, BancoDeQuartos.EmOrdem, BancoDeQuartos.Chamada,
  BancoDeQuartos.Certa, BancoDeQuartos.Segura, BancoDeQuartos.certa_iff
-/
import Mathlib.Data.List.Dedup
import IccvBackend.Bedrooms.Service
import IccvBackend.Proofs.Counter

namespace IccvBackend

open Lib

/-- What of a bedroom a failed request may not change, besides its occupants. -/
def Quarto.visto (quarto : Quarto) : String × Option Int × List String × List String :=
  (quarto.name, quarto.capacity, quarto.tag, quarto.groupTags)

/-- The same, as the form asks. -/
def QuartoDto.visto (dto : QuartoDto) : String × Option Int × List String × List String :=
  (dto.name, some dto.capacity.num, dto.tags.filterMap id, dto.groupTags.getD [])

@[simp] theorem QuartoDto.visto_gravar (dto : QuartoDto) (eventId : Id) (quarto : Quarto) :
    (dto.gravar eventId quarto).visto = dto.visto := rfl

@[simp] theorem QuartoDto.gravar_id (dto : QuartoDto) (eventId : Id) (quarto : Quarto) :
    (dto.gravar eventId quarto).id = quarto.id := rfl

theorem AmbienteDosQuartos.aceita_of_escreveu {amb : AmbienteDosQuartos} {passo : EscritaDeQuartos}
    {aceita : Bool} {desfecho : Desfecho} (at_ : amb.desfecho passo aceita = desfecho)
    (escreveu : ∀ falhou, desfecho ≠ .antes falhou) : aceita = true := by
  by_contra refused
  rw [AmbienteDosQuartos.desfecho, if_neg refused] at at_
  exact escreveu _ at_.symm

namespace BancoDeQuartos

variable {amb : AmbienteDosQuartos} {s t : BancoDeQuartos} {idEvent idBedroom other : Id}
  {dto : QuartoDto} {usersId : List IdRecebido} {falhou : Failure}

/-! ### A bedroom -/

def quarto? (s : BancoDeQuartos) (idBedroom : Id) : Option Quarto :=
  s.quartos.find? fun quarto => quarto.id = idBedroom

theorem exists_of_quarto? (there : (s.quarto? idBedroom).isSome) :
    ∃ quarto ∈ s.quartos, s.quarto? idBedroom = some quarto ∧ quarto.id = idBedroom := by
  obtain ⟨quarto, found⟩ := Option.isSome_iff_exists.mp there
  exact ⟨quarto, List.mem_of_find?_eq_some found, found, by simpa using List.find?_some found⟩

/-- Who is in a bedroom. -/
def ocupantes (s : BancoDeQuartos) (idBedroom : Id) : List Id :=
  (s.ocupacoes.filter fun row => row.bedroomsId = idBedroom).map BedroomOnUser.userId

/-- The bedroom has the same occupants, name, capacity and tags. -/
structure Intacto (s depois : BancoDeQuartos) (idBedroom : Id) : Prop where
  ocupantes : (depois.ocupantes idBedroom).Perm (s.ocupantes idBedroom)
  colunas : (depois.quarto? idBedroom).map Quarto.visto = (s.quarto? idBedroom).map Quarto.visto

theorem Intacto.refl (s : BancoDeQuartos) (idBedroom : Id) : s.Intacto s idBedroom :=
  ⟨.refl _, rfl⟩

/-- The keys of the tables: nobody is twice in a bedroom, and the next id is of no bedroom yet. -/
structure EmOrdem (s : BancoDeQuartos) : Prop where
  chaves : s.ocupacoes.Nodup
  quartos : ∀ quarto ∈ s.quartos, quarto.id < s.proximoQuarto
  ocupados : ∀ row ∈ s.ocupacoes, row.bedroomsId < s.proximoQuarto

theorem mem_ocupantes {u : Id} : u ∈ s.ocupantes idBedroom ↔ ⟨u, idBedroom⟩ ∈ s.ocupacoes := by
  simp only [ocupantes, List.mem_map, List.mem_filter, decide_eq_true_eq]
  constructor
  · rintro ⟨⟨u', b⟩, ⟨mem, rfl⟩, rfl⟩
    exact mem
  · intro mem
    exact ⟨_, ⟨mem, rfl⟩, rfl⟩

theorem EmOrdem.ocupantes_nodup (emOrdem : s.EmOrdem) : (s.ocupantes idBedroom).Nodup := by
  apply List.Nodup.map_on _ (emOrdem.chaves.filter _)
  rintro ⟨u, b⟩ mem ⟨u', b'⟩ mem' same
  have here := of_decide_eq_true (List.mem_filter.mp mem).2
  have there := of_decide_eq_true (List.mem_filter.mp mem').2
  simp only at here there same
  rw [here, there, same]

/-! ### What each statement leaves -/

theorem ocupantes_removerAusentes :
    (s.removerAusentes idBedroom usersId).ocupantes idBedroom =
      (s.ocupantes idBedroom).filter fun u => usersId.contains (.id u) := by
  simp only [ocupantes, removerAusentes, List.filter_filter, List.filter_map]
  congr 1
  apply List.filter_congr
  intro row _
  by_cases here : row.bedroomsId = idBedroom
  · simp [here]
  · simp [here]

theorem ocupantes_removerAusentes_of_ne (differ : other ≠ idBedroom) :
    (s.removerAusentes idBedroom usersId).ocupantes other = s.ocupantes other := by
  simp only [ocupantes, removerAusentes, List.filter_filter]
  congr 1
  apply List.filter_congr
  intro row _
  by_cases here : row.bedroomsId = other
  · simp [here, differ]
  · simp [here]

@[simp] theorem quarto?_removerAusentes :
    (s.removerAusentes idBedroom usersId).quarto? other = s.quarto? other := rfl

@[simp] theorem ocupantes_gravarQuarto :
    (s.gravarQuarto idEvent idBedroom dto).ocupantes other = s.ocupantes other := rfl

theorem quarto?_gravarQuarto :
    (s.gravarQuarto idEvent idBedroom dto).quarto? other =
      (s.quarto? other).map fun quarto =>
        if quarto.id = idBedroom then dto.gravar idEvent quarto else quarto := by
  rw [quarto?, gravarQuarto, quarto?, List.find?_map]
  congr 2
  funext quarto
  by_cases here : quarto.id = idBedroom
  · simp [here]
  · simp [here]

theorem visto_gravarQuarto (there : (s.quarto? idBedroom).isSome) :
    ((s.gravarQuarto idEvent idBedroom dto).quarto? idBedroom).map Quarto.visto =
      some dto.visto := by
  obtain ⟨quarto, _, found, here⟩ := exists_of_quarto? there
  simp [quarto?_gravarQuarto, found, here]

theorem visto_gravarQuarto_of_ne (differ : other ≠ idBedroom) :
    (s.gravarQuarto idEvent idBedroom dto).quarto? other = s.quarto? other := by
  rw [quarto?_gravarQuarto]
  cases found : s.quarto? other with
  | none => rfl
  | some quarto =>
      have here : quarto.id = other := by simpa using List.find?_some found
      simp [here, differ]

/-- Whoever is included is in that bedroom and in no other. -/
theorem ocupantes_incluir_eq (filterIds : List IdRecebido) :
    (s.incluir filterIds idBedroom).ocupantes other =
      s.ocupantes other ++ if idBedroom = other then pessoas filterIds else [] := by
  simp only [ocupantes, incluir, List.filter_append, List.map_append, List.filter_map, List.map_map]
  congr 1
  by_cases here : idBedroom = other
  · simp [here, Function.comp_def]
  · simp [here, Function.comp_def]

theorem ocupantes_incluir (filterIds : List IdRecebido) :
    (s.incluir filterIds idBedroom).ocupantes idBedroom =
      s.ocupantes idBedroom ++ pessoas filterIds := by
  rw [ocupantes_incluir_eq, if_pos rfl]

theorem ocupantes_incluir_of_ne (filterIds : List IdRecebido) (differ : other ≠ idBedroom) :
    (s.incluir filterIds idBedroom).ocupantes other = s.ocupantes other := by
  rw [ocupantes_incluir_eq, if_neg differ.symm, List.append_nil]

theorem cabem_iff {filterIds : List IdRecebido} :
    cabem filterIds = true ↔ filterIds.Nodup ∧ ∀ item ∈ filterIds, item.id?.isSome = true := by
  rw [cabem, Bool.and_eq_true, decide_eq_true_eq, List.all_eq_true]

/-- The items that fit are all ids. -/
theorem map_pessoas {filterIds : List IdRecebido} (cabem : cabem filterIds = true) :
    (pessoas filterIds).map IdRecebido.id = filterIds := by
  have people := (cabem_iff.mp cabem).2
  clear cabem
  induction filterIds with
  | nil => rfl
  | cons item items ih =>
      have here := people item List.mem_cons_self
      have rest := ih fun item' mem => people item' (List.mem_cons_of_mem item mem)
      cases item with
      | id u => exact congrArg _ rest
      | vazio => cases here
      | nulo => cases here
      | outro => cases here

theorem mem_pessoas {u : Id} : u ∈ pessoas usersId ↔ .id u ∈ usersId := by
  rw [pessoas, List.mem_filterMap]
  constructor
  · rintro ⟨item, mem, same⟩
    cases item with
    | id u' =>
        cases same
        exact mem
    | vazio => cases same
    | nulo => cases same
    | outro => cases same
  · intro mem
    exact ⟨_, mem, rfl⟩

theorem mem_novos {item : IdRecebido} :
    item ∈ s.novos usersId idBedroom ↔
      item ∈ usersId ∧ ∀ u, .id u = item → u ∉ s.ocupantes idBedroom := by
  rw [novos, List.mem_filter, Bool.not_eq_true', List.any_eq_false]
  apply and_congr_right
  intro _
  constructor
  · intro nobody u same inside
    exact nobody _ (mem_ocupantes.mp inside) (by simpa using same)
  · rintro nobody ⟨u, b⟩ mem both
    rw [Bool.and_eq_true, decide_eq_true_eq, decide_eq_true_eq] at both
    obtain ⟨same, rfl⟩ := both
    exact nobody u same (mem_ocupantes.mpr mem)

/-- The people who stay are those who were there, so the same ones are new before and after the
others leave. -/
theorem novos_removerAusentes :
    (s.removerAusentes idBedroom usersId).novos usersId idBedroom = s.novos usersId idBedroom := by
  have same_rows : ∀ t : BancoDeQuartos, t.novos usersId idBedroom =
      usersId.filter fun item => !t.ocupacoes.any fun row =>
        .id row.userId = item && row.bedroomsId = idBedroom := fun _ => rfl
  rw [same_rows, same_rows]
  apply List.filter_congr
  intro item mem
  congr 1
  rw [removerAusentes, List.any_filter, Bool.eq_iff_iff, List.any_eq_true, List.any_eq_true]
  constructor
  · rintro ⟨row, in_rows, both⟩
    rw [Bool.and_eq_true] at both
    exact ⟨row, in_rows, both.2⟩
  · rintro ⟨row, in_rows, both⟩
    refine ⟨row, in_rows, ?_⟩
    obtain ⟨same, here⟩ := by simpa using both
    simp [same, here, mem]

/-! ### The edition -/

/-- Somebody in the bedroom is not in the list. -/
def Sai (s : BancoDeQuartos) (idBedroom : Id) (usersId : List IdRecebido) : Prop :=
  ∃ u ∈ s.ocupantes idBedroom, .id u ∉ usersId

/-- The form does not say what the bedroom has. -/
def Muda (s : BancoDeQuartos) (idBedroom : Id) (dto : QuartoDto) : Prop :=
  (s.quarto? idBedroom).map Quarto.visto ≠ some dto.visto

/-- An edition that throws leaves every bedroom as it was; one that succeeds leaves in the bedroom
exactly the people of the list. -/
def EdicaoCerta (s : BancoDeQuartos) (idBedroom : Id) (usersId : List IdRecebido)
    (feito : BancoDeQuartos × Except Failure Unit) : Prop :=
  match feito.2 with
  | .error _ => ∀ id, s.Intacto feito.1 id
  | .ok _ => ((feito.1.ocupantes idBedroom).map IdRecebido.id).Perm usersId.dedup

/-- The edition does not stop once it has written something that was not already so.  Before the
removal it has written nothing; after it, whoever had to leave is gone; after the rewriting, the
columns are the form's; after the additions, somebody new is in. -/
def EdicaoSegura (amb : AmbienteDosQuartos) (s : BancoDeQuartos) (idEvent idBedroom : Id)
    (dto : QuartoDto) : Prop :=
  match s.conferirEdicao amb idEvent idBedroom dto with
  | .error _ => True
  | .ok _ =>
    match amb.desfecho .saidas (dto.usersId.all IdRecebido.texto) with
    | .antes _ => True
    | .depois _ => ¬ s.Sai idBedroom dto.usersId
    | .ok =>
      match amb.desfecho .quarto dto.aceito with
      | .antes _ => ¬ s.Sai idBedroom dto.usersId
      | .depois _ => ¬ s.Sai idBedroom dto.usersId ∧ ¬ s.Muda idBedroom dto
      | .ok =>
        match lerOcupantes amb dto.usersId with
        | .error _ => ¬ s.Sai idBedroom dto.usersId ∧ ¬ s.Muda idBedroom dto
        | .ok _ =>
          s.novos dto.usersId idBedroom = [] ∨
            match amb.desfecho .entradas (cabem (s.novos dto.usersId idBedroom)) with
            | .antes _ => ¬ s.Sai idBedroom dto.usersId ∧ ¬ s.Muda idBedroom dto
            | .depois _ => False
            | .ok => True

/-- Leaving out whoever is not in the list changes the bedroom exactly when somebody leaves. -/
theorem intacto_removerAusentes_iff :
    (∀ id, s.Intacto (s.removerAusentes idBedroom usersId) id) ↔ ¬ s.Sai idBedroom usersId := by
  constructor
  · rintro intacto ⟨u, inside, absent⟩
    have stays := (intacto idBedroom).ocupantes.mem_iff.mpr inside
    rw [ocupantes_removerAusentes, List.mem_filter] at stays
    exact absent (by simpa using stays.2)
  · intro nobody id
    refine ⟨?_, rfl⟩
    by_cases here : id = idBedroom
    · subst here
      rw [ocupantes_removerAusentes, List.filter_eq_self.mpr]
      intro u inside
      by_contra absent
      exact nobody ⟨u, inside, by simpa using absent⟩
    · rw [ocupantes_removerAusentes_of_ne here]

/-- Rewriting the bedroom too changes it exactly when somebody leaves or a column changes. -/
theorem intacto_gravarQuarto_iff (there : (s.quarto? idBedroom).isSome) :
    (∀ id, s.Intacto
        ((s.removerAusentes idBedroom dto.usersId).gravarQuarto idEvent idBedroom dto) id) ↔
      ¬ s.Sai idBedroom dto.usersId ∧ ¬ s.Muda idBedroom dto := by
  have written : (((s.removerAusentes idBedroom dto.usersId).gravarQuarto idEvent idBedroom
      dto).quarto? idBedroom).map Quarto.visto = some dto.visto := visto_gravarQuarto there
  rw [← intacto_removerAusentes_iff]
  constructor
  · intro intacto
    refine ⟨fun id => ⟨(intacto id).ocupantes, rfl⟩, ?_⟩
    rw [Muda, not_not, ← (intacto idBedroom).colunas, written]
  · rintro ⟨intacto, same⟩ id
    refine ⟨(intacto id).ocupantes, ?_⟩
    by_cases here : id = idBedroom
    · subst here
      rw [Muda, not_not] at same
      rw [same, written]
    · rw [visto_gravarQuarto_of_ne here, quarto?_removerAusentes]

/-- Once somebody new has come in, the bedroom is not as it was. -/
theorem not_intacto_incluir (cabem : cabem (s.novos usersId idBedroom) = true)
    (some_new : s.novos usersId idBedroom ≠ []) :
    ¬ s.Intacto (t.incluir (s.novos usersId idBedroom) idBedroom) idBedroom := by
  intro intacto
  obtain ⟨item, is_new⟩ := List.exists_mem_of_ne_nil _ some_new
  rw [← map_pessoas cabem] at is_new
  obtain ⟨u, person, rfl⟩ := List.mem_map.mp is_new
  have outside := (mem_novos.mp (mem_pessoas.mp person)).2 u rfl
  apply outside
  rw [← intacto.ocupantes.mem_iff, ocupantes_incluir, List.mem_append]
  exact Or.inr person

/-- Whoever stayed and whoever came in are the people of the list, each once. -/
theorem ocupantes_perm (emOrdem : s.EmOrdem) (cabem : cabem (s.novos usersId idBedroom) = true) :
    ((((s.ocupantes idBedroom).filter fun u => usersId.contains (.id u)) ++
      pessoas (s.novos usersId idBedroom)).map IdRecebido.id).Perm usersId.dedup := by
  have new_nodup := (cabem_iff.mp cabem).1
  rw [List.map_append, map_pessoas cabem, List.perm_ext_iff_of_nodup _ (List.nodup_dedup _)]
  · intro item
    rw [List.mem_append, List.mem_map, List.mem_dedup, mem_novos]
    constructor
    · rintro (⟨u, stays, rfl⟩ | ⟨listed, _⟩)
      · simpa using (List.mem_filter.mp stays).2
      · exact listed
    · intro listed
      by_cases inside : ∃ u, .id u = item ∧ u ∈ s.ocupantes idBedroom
      · obtain ⟨u, rfl, inside⟩ := inside
        exact Or.inl ⟨u, List.mem_filter.mpr ⟨inside, by simpa using listed⟩, rfl⟩
      · exact Or.inr ⟨listed, fun u same inside' => inside ⟨u, same, inside'⟩⟩
  · rw [List.nodup_append]
    refine ⟨?_, new_nodup, ?_⟩
    · exact (emOrdem.ocupantes_nodup.filter _).map fun _ _ same => IdRecebido.id.inj same
    · rintro item stays item' is_new rfl
      obtain ⟨u, kept, rfl⟩ := List.mem_map.mp stays
      exact (mem_novos.mp is_new).2 u rfl (List.mem_filter.mp kept).1

theorem edicaoCerta_throw :
    EdicaoCerta s idBedroom usersId (t, throw falhou) ↔ ∀ id, s.Intacto t id := Iff.rfl

theorem edicaoCerta_pure :
    EdicaoCerta s idBedroom usersId (t, pure ()) ↔
      ((t.ocupantes idBedroom).map IdRecebido.id).Perm usersId.dedup := Iff.rfl

/-- The checks of an edition found the bedroom. -/
theorem quarto?_of_conferirEdicao {visto : Unit}
    (at_ : s.conferirEdicao amb idEvent idBedroom dto = .ok visto) :
    (s.quarto? idBedroom).isSome := by
  simp only [conferirEdicao, bind_eq_ok_iff, orFail_eq_ok_iff] at at_
  obtain ⟨_, _, quarto, found, _⟩ := at_
  have both := List.find?_some found
  rw [Bool.and_eq_true] at both
  rw [quarto?, List.find?_isSome]
  exact ⟨quarto, List.mem_of_find?_eq_some found, both.1⟩

/-- What the additions do to the room once the others have left and the columns are written. -/
theorem edicaoCerta_createRelations (emOrdem : s.EmOrdem) (there : (s.quarto? idBedroom).isSome) :
    EdicaoCerta s idBedroom dto.usersId
        (((s.removerAusentes idBedroom dto.usersId).gravarQuarto idEvent
          idBedroom dto).createRelations amb dto.usersId idBedroom) ↔
      match lerOcupantes amb dto.usersId with
      | .error _ => ¬ s.Sai idBedroom dto.usersId ∧ ¬ s.Muda idBedroom dto
      | .ok _ =>
        s.novos dto.usersId idBedroom = [] ∨
          match amb.desfecho .entradas (cabem (s.novos dto.usersId idBedroom)) with
          | .antes _ => ¬ s.Sai idBedroom dto.usersId ∧ ¬ s.Muda idBedroom dto
          | .depois _ => False
          | .ok => True := by
  have same_new : ((s.removerAusentes idBedroom dto.usersId).gravarQuarto idEvent
      idBedroom dto).novos
      dto.usersId idBedroom = s.novos dto.usersId idBedroom := novos_removerAusentes
  rw [createRelations, same_new]
  cases lerOcupantes amb dto.usersId with
  | error falhou => exact edicaoCerta_throw.trans (intacto_gravarQuarto_iff there)
  | ok lido =>
      by_cases none_new : s.novos dto.usersId idBedroom = []
      · have fits : cabem (s.novos dto.usersId idBedroom) = true := by
          rw [none_new]
          rfl
        have all_here := ocupantes_perm emOrdem fits
        simp only [none_new, List.isEmpty_nil, if_true, true_or, iff_true]
        rw [edicaoCerta_pure, ocupantes_gravarQuarto, ocupantes_removerAusentes]
        rw [none_new] at all_here
        simpa [pessoas] using all_here
      · have not_empty : (s.novos dto.usersId idBedroom).isEmpty = false := by simpa using none_new
        simp only [not_empty, Bool.false_eq_true, if_false, none_new, false_or]
        cases ending : amb.desfecho .entradas (cabem (s.novos dto.usersId idBedroom)) with
        | antes falhou => exact edicaoCerta_throw.trans (intacto_gravarQuarto_iff there)
        | depois falhou =>
            have fits := AmbienteDosQuartos.aceita_of_escreveu ending (by simp)
            exact iff_of_false (fun intacto =>
              not_intacto_incluir fits none_new (intacto idBedroom)) id
        | ok =>
            have fits := AmbienteDosQuartos.aceita_of_escreveu ending (by simp)
            refine iff_of_true (edicaoCerta_pure.mpr ?_) trivial
            rw [ocupantes_incluir, ocupantes_gravarQuarto, ocupantes_removerAusentes]
            exact ocupantes_perm emOrdem fits

theorem edicaoCerta_iff (emOrdem : s.EmOrdem) :
    EdicaoCerta s idBedroom dto.usersId (s.update amb idEvent idBedroom dto) ↔
      EdicaoSegura amb s idEvent idBedroom dto := by
  rw [update, EdicaoSegura]
  cases checked : s.conferirEdicao amb idEvent idBedroom dto with
  | error falhou => exact iff_of_true (edicaoCerta_throw.mpr fun id => .refl s id) trivial
  | ok visto =>
      have there := quarto?_of_conferirEdicao checked
      cases amb.desfecho .saidas (dto.usersId.all IdRecebido.texto) with
      | antes falhou => exact iff_of_true (edicaoCerta_throw.mpr fun id => .refl s id) trivial
      | depois falhou => exact edicaoCerta_throw.trans intacto_removerAusentes_iff
      | ok =>
          cases amb.desfecho .quarto dto.aceito with
          | antes falhou => exact edicaoCerta_throw.trans intacto_removerAusentes_iff
          | depois falhou => exact edicaoCerta_throw.trans (intacto_gravarQuarto_iff there)
          | ok => exact edicaoCerta_createRelations emOrdem there

/-! ### The creation -/

/-- A creation that throws leaves the bedrooms there were as they were, and any other bedroom has
exactly the people of the list. -/
def CriacaoCerta (s : BancoDeQuartos) (usersId : List IdRecebido)
    (feito : BancoDeQuartos × Except Failure Unit) : Prop :=
  match feito.2 with
  | .ok _ => True
  | .error _ =>
      (∀ id, (s.quarto? id).isSome → s.Intacto feito.1 id) ∧
      ∀ quarto ∈ feito.1.quartos, s.quarto? quarto.id = none →
        ((feito.1.ocupantes quarto.id).map IdRecebido.id).Perm usersId.dedup

/-- The creation does not stop between the bedroom and its occupants, unless it has none. -/
def CriacaoSegura (amb : AmbienteDosQuartos) (s : BancoDeQuartos) (idEvent : Id) (dto : QuartoDto) :
    Prop :=
  match s.conferirCriacao amb idEvent dto with
  | .error _ => True
  | .ok _ =>
    match amb.desfecho .quarto dto.aceito with
    | .antes _ => True
    | .depois _ => dto.usersId = []
    | .ok =>
      match lerOcupantes amb dto.usersId with
      | .error _ => dto.usersId = []
      | .ok _ =>
        dto.usersId = [] ∨
          match amb.desfecho .entradas (cabem dto.usersId) with
          | .antes _ => False
          | .depois _ => True
          | .ok => True

/-- Nobody is in a bedroom that is not there yet. -/
theorem EmOrdem.ocupantes_proximoQuarto (emOrdem : s.EmOrdem) :
    s.ocupantes s.proximoQuarto = [] := by
  rw [List.eq_nil_iff_forall_not_mem]
  intro u inside
  exact absurd (emOrdem.ocupados _ (mem_ocupantes.mp inside)) (lt_irrefl _)

theorem quarto?_comQuarto (there : (s.quarto? other).isSome) :
    (s.comQuarto idEvent dto).quarto? other = s.quarto? other := by
  obtain ⟨quarto, _, found, _⟩ := exists_of_quarto? there
  rw [quarto?] at found
  rw [quarto?, comQuarto, quarto?, List.find?_append, found]
  rfl

theorem quarto?_ne_none {quarto : Quarto}
    (mem : quarto ∈ s.quartos) : s.quarto? quarto.id ≠ none := by
  intro gone
  rw [quarto?, List.find?_eq_none] at gone
  exact gone quarto mem (by simp)

theorem EmOrdem.lt_proximoQuarto (emOrdem : s.EmOrdem) (there : (s.quarto? other).isSome) :
    other < s.proximoQuarto := by
  obtain ⟨quarto, mem, _, rfl⟩ := exists_of_quarto? there
  exact emOrdem.quartos quarto mem

/-- The only bedroom of a creation is the one it creates. -/
theorem EmOrdem.novo_iff (emOrdem : s.EmOrdem) (P : Id → Prop)
    (rows : t.quartos = (s.comQuarto idEvent dto).quartos) :
    (∀ quarto ∈ t.quartos, s.quarto? quarto.id = none → P quarto.id) ↔ P s.proximoQuarto := by
  have absent : s.quarto? s.proximoQuarto = none := by
    by_contra there
    exact lt_irrefl _ (emOrdem.lt_proximoQuarto (Option.isSome_iff_ne_none.mpr there))
  rw [rows, comQuarto]
  constructor
  · intro every
    exact every _ (List.mem_append_right _ List.mem_cons_self) absent
  · intro here quarto mem gone
    rcases List.mem_append.mp mem with old | new
    · exact absurd gone (quarto?_ne_none old)
    · rw [List.mem_singleton.mp new]
      exact here

theorem criacaoCerta_pure : CriacaoCerta s usersId (t, pure ()) := trivial

theorem criacaoCerta_throw_self : CriacaoCerta s usersId (s, throw falhou) := by
  refine ⟨fun id _ => .refl s id, ?_⟩
  intro quarto mem gone
  exact absurd gone (quarto?_ne_none mem)

theorem criacaoCerta_mapError (feito : BancoDeQuartos × Except Failure Unit)
    (f : Failure → Failure) :
    CriacaoCerta s usersId (feito.1, feito.2.mapError f) ↔ CriacaoCerta s usersId feito := by
  obtain ⟨depois, _ | _⟩ := feito
  · exact Iff.rfl
  · exact Iff.rfl

/-- A bedroom whose occupants were not written is the one asked only if it has none. -/
theorem criacaoCerta_comQuarto (emOrdem : s.EmOrdem) :
    CriacaoCerta s dto.usersId (s.comQuarto idEvent dto, throw falhou) ↔ dto.usersId = [] := by
  have intact : ∀ id, (s.quarto? id).isSome → s.Intacto (s.comQuarto idEvent dto) id :=
    fun id there => ⟨.refl _, congrArg _ (quarto?_comQuarto there)⟩
  have nobody : (s.comQuarto idEvent dto).ocupantes s.proximoQuarto = [] :=
    emOrdem.ocupantes_proximoQuarto
  calc CriacaoCerta s dto.usersId (s.comQuarto idEvent dto, throw falhou)
      ↔ (((s.comQuarto idEvent dto).ocupantes s.proximoQuarto).map IdRecebido.id).Perm
          dto.usersId.dedup :=
        (and_iff_right intact).trans (emOrdem.novo_iff (fun id =>
          (((s.comQuarto idEvent dto).ocupantes id).map IdRecebido.id).Perm dto.usersId.dedup) rfl)
    _ ↔ dto.usersId.dedup = [] := by rw [nobody, List.map_nil, List.nil_perm]
    _ ↔ dto.usersId = [] := List.dedup_eq_nil _

/-- A bedroom whose occupants were all written is the one asked. -/
theorem criacaoCerta_incluir (emOrdem : s.EmOrdem) (cabem : cabem dto.usersId = true) :
    CriacaoCerta s dto.usersId
      ((s.comQuarto idEvent dto).incluir dto.usersId s.proximoQuarto, throw falhou) := by
  have listed_once := (cabem_iff.mp cabem).1
  have nobody : (s.comQuarto idEvent dto).ocupantes s.proximoQuarto = [] :=
    emOrdem.ocupantes_proximoQuarto
  constructor
  · intro id there
    refine ⟨?_, congrArg _ (quarto?_comQuarto there)⟩
    rw [ocupantes_incluir_of_ne _ (emOrdem.lt_proximoQuarto there).ne]
    exact .refl _
  · refine (emOrdem.novo_iff (fun id =>
      ((((s.comQuarto idEvent dto).incluir dto.usersId s.proximoQuarto).ocupantes id).map
        IdRecebido.id).Perm dto.usersId.dedup) rfl).mpr ?_
    rw [ocupantes_incluir, nobody, List.nil_append, map_pessoas cabem, listed_once.dedup]

/-- Everybody of the list is new to the bedroom just created. -/
theorem EmOrdem.novos_comQuarto (emOrdem : s.EmOrdem) :
    (s.comQuarto idEvent dto).novos usersId s.proximoQuarto = usersId := by
  have nobody : (s.comQuarto idEvent dto).ocupantes s.proximoQuarto = [] :=
    emOrdem.ocupantes_proximoQuarto
  have all_new : ∀ item ∈ usersId, item ∈ (s.comQuarto idEvent dto).novos
      usersId s.proximoQuarto := by
    intro item mem
    refine mem_novos.mpr ⟨mem, fun u _ => ?_⟩
    rw [nobody]
    exact List.not_mem_nil
  exact List.filter_eq_self.mpr fun item mem => (List.mem_filter.mp (all_new item mem)).2

theorem criacaoCerta_createRelations (emOrdem : s.EmOrdem) :
    CriacaoCerta s dto.usersId
        ((s.comQuarto idEvent dto).createRelations amb dto.usersId s.proximoQuarto) ↔
      match lerOcupantes amb dto.usersId with
      | .error _ => dto.usersId = []
      | .ok _ =>
        dto.usersId = [] ∨
          match amb.desfecho .entradas (cabem dto.usersId) with
          | .antes _ => False
          | .depois _ => True
          | .ok => True := by
  rw [createRelations, emOrdem.novos_comQuarto]
  cases lerOcupantes amb dto.usersId with
  | error falhou => exact criacaoCerta_comQuarto emOrdem
  | ok lido =>
      by_cases nobody : dto.usersId = []
      · simp only [nobody, List.isEmpty_nil, if_true, true_or, iff_true]
        exact criacaoCerta_pure
      · have not_empty : dto.usersId.isEmpty = false := by simpa using nobody
        simp only [not_empty, Bool.false_eq_true, if_false, nobody, false_or]
        cases ending : amb.desfecho .entradas (cabem dto.usersId) with
        | antes falhou => exact (criacaoCerta_comQuarto emOrdem).trans (iff_false_intro nobody)
        | depois falhou =>
            have fits := AmbienteDosQuartos.aceita_of_escreveu ending (by simp)
            exact iff_of_true (criacaoCerta_incluir emOrdem fits) trivial
        | ok => exact iff_of_true criacaoCerta_pure trivial

theorem criacaoCerta_iff (emOrdem : s.EmOrdem) :
    CriacaoCerta s dto.usersId (s.create amb idEvent dto) ↔ CriacaoSegura amb s idEvent dto := by
  rw [create, CriacaoSegura]
  cases s.conferirCriacao amb idEvent dto with
  | error falhou => exact iff_of_true criacaoCerta_throw_self trivial
  | ok visto =>
      refine (criacaoCerta_mapError _ _).trans ?_
      cases amb.desfecho .quarto dto.aceito with
      | antes falhou => exact iff_of_true criacaoCerta_throw_self trivial
      | depois falhou => exact criacaoCerta_comQuarto emOrdem
      | ok => exact criacaoCerta_createRelations emOrdem

/-! ### The keys stay in order -/

theorem EmOrdem.removerAusentes (emOrdem : s.EmOrdem) :
    (s.removerAusentes idBedroom usersId).EmOrdem where
  chaves := emOrdem.chaves.filter _
  quartos := emOrdem.quartos
  ocupados row mem := emOrdem.ocupados row (List.mem_of_mem_filter mem)

theorem EmOrdem.gravarQuarto (emOrdem : s.EmOrdem) :
    (s.gravarQuarto idEvent idBedroom dto).EmOrdem where
  chaves := emOrdem.chaves
  quartos quarto mem := by
    obtain ⟨before, there, rfl⟩ := List.mem_map.mp mem
    have bound := emOrdem.quartos before there
    split_ifs
    · exact bound
    · exact bound
  ocupados := emOrdem.ocupados

theorem EmOrdem.comQuarto (emOrdem : s.EmOrdem) : (s.comQuarto idEvent dto).EmOrdem where
  chaves := emOrdem.chaves
  quartos quarto mem := by
    rcases List.mem_append.mp mem with old | new
    · exact Nat.lt_succ_of_lt (emOrdem.quartos quarto old)
    · rw [List.mem_singleton.mp new]
      exact Nat.lt_succ_self _
  ocupados row mem := Nat.lt_succ_of_lt (emOrdem.ocupados row mem)

theorem EmOrdem.incluir (emOrdem : s.EmOrdem) (there : idBedroom < s.proximoQuarto)
    (cabem : cabem (s.novos usersId idBedroom) = true) :
    (s.incluir (s.novos usersId idBedroom) idBedroom).EmOrdem where
  chaves := by
    have new_nodup := (cabem_iff.mp cabem).1
    rw [← map_pessoas cabem] at new_nodup
    refine List.nodup_append.mpr ⟨emOrdem.chaves, new_nodup.of_map.map fun _ _ same => ?_, ?_⟩
    · exact congrArg BedroomOnUser.userId same
    · rintro row old row' new rfl
      obtain ⟨u, person, rfl⟩ := List.mem_map.mp new
      exact (mem_novos.mp (mem_pessoas.mp person)).2 u rfl (mem_ocupantes.mpr old)
  quartos := emOrdem.quartos
  ocupados row mem := by
    rcases List.mem_append.mp mem with old | new
    · exact emOrdem.ocupados row old
    · obtain ⟨u, _, rfl⟩ := List.mem_map.mp new
      exact there

theorem EmOrdem.createRelations (emOrdem : s.EmOrdem) (there : idBedroom < s.proximoQuarto) :
    (s.createRelations amb usersId idBedroom).1.EmOrdem := by
  rw [BancoDeQuartos.createRelations]
  cases lerOcupantes amb usersId with
  | error falhou => exact emOrdem
  | ok lido =>
      dsimp only
      split_ifs with nobody
      · exact emOrdem
      · cases ending : amb.desfecho .entradas (cabem (s.novos usersId idBedroom)) with
        | antes falhou => exact emOrdem
        | depois falhou =>
            exact emOrdem.incluir there (AmbienteDosQuartos.aceita_of_escreveu ending (by simp))
        | ok => exact emOrdem.incluir there (AmbienteDosQuartos.aceita_of_escreveu ending (by simp))

theorem EmOrdem.create (emOrdem : s.EmOrdem) : (s.create amb idEvent dto).1.EmOrdem := by
  rw [BancoDeQuartos.create]
  cases s.conferirCriacao amb idEvent dto with
  | error falhou => exact emOrdem
  | ok visto =>
      cases amb.desfecho .quarto dto.aceito with
      | antes falhou => exact emOrdem
      | depois falhou => exact emOrdem.comQuarto
      | ok => exact emOrdem.comQuarto.createRelations (Nat.lt_succ_self _)

theorem EmOrdem.update (emOrdem : s.EmOrdem) : (s.update amb idEvent idBedroom dto).1.EmOrdem := by
  rw [BancoDeQuartos.update]
  cases checked : s.conferirEdicao amb idEvent idBedroom dto with
  | error falhou => exact emOrdem
  | ok visto =>
      have there := emOrdem.lt_proximoQuarto (quarto?_of_conferirEdicao checked)
      cases amb.desfecho .saidas (dto.usersId.all IdRecebido.texto) with
      | antes falhou => exact emOrdem
      | depois falhou => exact emOrdem.removerAusentes
      | ok =>
          cases amb.desfecho .quarto dto.aceito with
          | antes falhou => exact emOrdem.removerAusentes
          | depois falhou => exact emOrdem.removerAusentes.gravarQuarto
          | ok => exact emOrdem.removerAusentes.gravarQuarto.createRelations there

/-! ### Any call -/

inductive Chamada where
  | create (idEvent : Id) (dto : QuartoDto)
  | update (idEvent idBedroom : Id) (dto : QuartoDto)

def executar (s : BancoDeQuartos) (amb : AmbienteDosQuartos) : Chamada → BancoDeQuartos
  | .create idEvent dto => (s.create amb idEvent dto).1
  | .update idEvent idBedroom dto => (s.update amb idEvent idBedroom dto).1

/-- The state after many calls, whatever fails in each. -/
def apos (s : BancoDeQuartos) (chamadas : List (AmbienteDosQuartos × Chamada)) : BancoDeQuartos :=
  chamadas.foldl (fun t feita => t.executar feita.1 feita.2) s

theorem EmOrdem.apos (emOrdem : s.EmOrdem) (chamadas : List (AmbienteDosQuartos × Chamada)) :
    (s.apos chamadas).EmOrdem := by
  induction chamadas generalizing s with
  | nil => exact emOrdem
  | cons feita chamadas ih =>
      obtain ⟨amb, chamada⟩ := feita
      cases chamada with
      | create idEvent dto => exact ih emOrdem.create
      | update idEvent idBedroom dto => exact ih emOrdem.update

/-- What is asked of a call: throwing, it changed no bedroom and left none without its occupants;
and an edition that does not throw put in the bedroom the people of the list. -/
def Certa (amb : AmbienteDosQuartos) (s : BancoDeQuartos) : Chamada → Prop
  | .create idEvent dto => CriacaoCerta s dto.usersId (s.create amb idEvent dto)
  | .update idEvent idBedroom dto =>
      EdicaoCerta s idBedroom dto.usersId (s.update amb idEvent idBedroom dto)

def Segura (amb : AmbienteDosQuartos) (s : BancoDeQuartos) : Chamada → Prop
  | .create idEvent dto => CriacaoSegura amb s idEvent dto
  | .update idEvent idBedroom dto => EdicaoSegura amb s idEvent idBedroom dto

/-- No transaction holds the statements together: a call that throws leaves the bedrooms as they
were exactly when it stops before the first statement that changes something. -/
theorem certa_iff (emOrdem : s.EmOrdem) (amb : AmbienteDosQuartos) (chamada : Chamada) :
    Certa amb s chamada ↔ Segura amb s chamada := by
  cases chamada with
  | create idEvent dto => exact criacaoCerta_iff emOrdem
  | update idEvent idBedroom dto => exact edicaoCerta_iff emOrdem

/-! ### The same person twice -/

def semFalhas : AmbienteDosQuartos where
  leitura _ := pure ()
  escrita _ := .ok
  recusa := internalServerError "Internal Server Error"

/-- Two registered people and no bedroom. -/
def semQuartos : BancoDeQuartos where
  db := DoisInscritos.inicio.db
  desligados := []
  quartos := []
  ocupacoes := []
  proximoQuarto := 50

theorem emOrdem_semQuartos : semQuartos.EmOrdem where
  chaves := by decide
  quartos := by decide
  ocupados := by decide

def paraUm : QuartoDto where
  note := none
  name := "Quarto 1"
  capacity := 2
  tags := []
  groupTags := none
  usersId := [.id 1]

/-- A bedroom is created for the first of them. -/
def quartoDeUm : BancoDeQuartos := semQuartos.apos [(semFalhas, .create 5 paraUm)]

theorem emOrdem_quartoDeUm : quartoDeUm.EmOrdem := emOrdem_semQuartos.apos _

/-- The second person takes the place of the first, and is twice in the list. -/
def duasVezes : QuartoDto where
  note := none
  name := "Quarto 2"
  capacity := 2
  tags := []
  groupTags := none
  usersId := [.id 2, .id 2]

/-- The database takes every statement and refuses the key given twice: the first person is out, the
bedroom has another name and the second is not in. -/
theorem errada_duasVezes : ¬ Certa semFalhas quartoDeUm (.update 5 50 duasVezes) := by
  intro certa
  have thrown : (quartoDeUm.update semFalhas 5 50 duasVezes).2 =
      .error (internalServerError "Internal Server Error") := by
    decide +kernel
  have empty : (quartoDeUm.update semFalhas 5 50 duasVezes).1.ocupantes 50 = [] := by
    decide +kernel
  rw [Certa, EdicaoCerta, thrown] at certa
  have same_people := (certa 50).ocupantes
  rw [empty, List.nil_perm] at same_people
  exact absurd same_people (by decide +kernel)

theorem not_certa :
    ¬ ∀ (amb : AmbienteDosQuartos) (s : BancoDeQuartos) (chamada : Chamada), s.EmOrdem →
      Certa amb s chamada :=
  fun all_right => errada_duasVezes (all_right _ _ _ emOrdem_quartoDeUm)

/-- That edition goes past the first statement that changes something. -/
theorem certa_iff_duasVezes : ¬ Segura semFalhas quartoDeUm (.update 5 50 duasVezes) := by
  intro segura
  exact errada_duasVezes
    ((certa_iff emOrdem_quartoDeUm semFalhas (.update 5 50 duasVezes)).mpr segura)

end BancoDeQuartos

end IccvBackend
