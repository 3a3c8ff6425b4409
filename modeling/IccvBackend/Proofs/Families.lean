/-
Module: IccvBackend.Proofs.Families
Purpose: When families are of members of their church and never empty, and that nobody changes
  church without leaving the first one.
Trusted boundary: none
Main exports: Membresia.FamiliasCertas, Membresia.NaoTrocaDeIgreja, Membresia.DeixaVazia,
  familiasCertas_run_iff
-/
import IccvBackend.Membros.Service

namespace IccvBackend

open Lib

namespace Membresia

/-! ### The laws -/

/-- The person is a member of the church of the family. -/
def Pertence (families : List Familia) (p : Pessoa) : Prop :=
  ∀ familyId, p.familyId = some familyId →
    ∃ f ∈ families, f.id = familyId ∧ p.memberChurchId = some f.churchId

/-- Somebody is in the family. -/
def Habitada (db : Membresia) (familyId : Id) : Prop :=
  ∃ p ∈ db.pessoas, p.familyId = some familyId

/-- A person with a family is a member of its church, and no family is empty. -/
structure FamiliasCertas (db : Membresia) : Prop where
  pertence : ∀ p ∈ db.pessoas, Pertence db.families p
  habitada : ∀ f ∈ db.families, db.Habitada f.id

/-- Nobody becomes a member of a church while being a member of another. -/
def NaoTrocaDeIgreja (antes depois : Membresia) : Prop :=
  ∀ p ∈ antes.pessoas, ∀ p' ∈ depois.pessoas, p'.id = p.id →
    ∀ a b, p.memberChurchId = some a → p'.memberChurchId = some b → a = b

/-- The exclusion, by another, of an account without history that is alone in its family. -/
def DeixaVazia (db : Membresia) : Acao → Prop
  | .excluir alvoId requesterId =>
      alvoId ≠ requesterId ∧ ∃ alvo ∈ db.pessoas, alvo.id = alvoId ∧
        historicoDaConta alvo.historico = [] ∧
        ∃ familyId, alvo.familyId = some familyId ∧
          ∀ p ∈ db.pessoas, p.familyId = some familyId → p.id = alvoId
  | _ => False

/-- The keys of people and families. -/
structure EmOrdem (db : Membresia) : Prop where
  pessoas : Keyed Pessoa.id db.nextId db.pessoas
  families : Keyed Familia.id db.nextId db.families

/-! ### Writes on people -/

section Escritas

variable {db : Membresia} {quem : Pessoa → Bool} {f : Pessoa → Pessoa}

theorem mem_updatePessoas {novo : Pessoa} :
    novo ∈ (db.updatePessoas quem f).pessoas ↔
      ∃ p ∈ db.pessoas, (if quem p then f p else p) = novo := by
  simp [updatePessoas]

@[simp] theorem updatePessoas_families : (db.updatePessoas quem f).families = db.families := rfl

@[simp] theorem updatePessoas_nextId : (db.updatePessoas quem f).nextId = db.nextId := rfl

theorem EmOrdem.updatePessoas (emOrdem : db.EmOrdem) (same_id : ∀ p, (f p).id = p.id) :
    (db.updatePessoas quem f).EmOrdem where
  pessoas := emOrdem.pessoas.map fun p => by split <;> simp only [same_id]
  families := emOrdem.families

/-- A write on people keeps the law of the church when it gives nobody a second one. -/
theorem naoTroca_updatePessoas (emOrdem : db.EmOrdem) (same_id : ∀ p, (f p).id = p.id)
    (keep : ∀ p ∈ db.pessoas, quem p → ∀ a b, p.memberChurchId = some a →
      (f p).memberChurchId = some b → a = b) :
    NaoTrocaDeIgreja db (db.updatePessoas quem f) := by
  intro p mem p' mem' same a b before after
  obtain ⟨old, old_mem, rfl⟩ := mem_updatePessoas.mp mem'
  have named : old.id = p.id := by
    split at same
    · rw [← same_id old]
      exact same
    · exact same
  obtain rfl := emOrdem.pessoas.eq_of_key_eq old_mem mem named
  split at after
  · next picked => exact keep old old_mem picked a b before after
  · exact Option.some.inj (before.symm.trans after)

/-- A write on people that keeps the families of all of them, and takes nobody with a family out of
their church. -/
theorem FamiliasCertas.updatePessoas (certas : db.FamiliasCertas)
    (same_family : ∀ p ∈ db.pessoas, quem p → (f p).familyId = p.familyId)
    (same_church : ∀ p ∈ db.pessoas, quem p → p.familyId.isSome →
      (f p).memberChurchId = p.memberChurchId) :
    (db.updatePessoas quem f).FamiliasCertas := by
  constructor
  · intro novo mem familyId inside
    obtain ⟨p, p_mem, rfl⟩ := mem_updatePessoas.mp mem
    by_cases picked : quem p
    · rw [if_pos picked, same_family p p_mem picked] at inside
      rw [if_pos picked, same_church p p_mem picked (by simp [inside])]
      exact certas.pertence p p_mem familyId inside
    · rw [if_neg picked] at inside ⊢
      exact certas.pertence p p_mem familyId inside
  · intro familia mem
    obtain ⟨p, p_mem, inside⟩ := certas.habitada familia mem
    refine ⟨_, mem_updatePessoas.mpr ⟨p, p_mem, rfl⟩, ?_⟩
    split
    · next picked => rw [same_family p p_mem picked, inside]
    · exact inside

end Escritas

/-! ### Deleting the empty families -/

section Vazias

variable {db : Membresia}

@[simp] theorem apagarSeVazia_pessoas (familyId : Id) :
    (db.apagarSeVazia familyId).pessoas = db.pessoas := by
  unfold apagarSeVazia
  split <;> rfl

@[simp] theorem apagarSeVazia_nextId (familyId : Id) :
    (db.apagarSeVazia familyId).nextId = db.nextId := by
  unfold apagarSeVazia
  split <;> rfl

/-- A family goes when nobody is in it. -/
theorem mem_apagarSeVazia {familyId : Id} {f : Familia} :
    f ∈ (db.apagarSeVazia familyId).families ↔
      f ∈ db.families ∧ (f.id = familyId → db.Habitada familyId) := by
  unfold apagarSeVazia Habitada
  split
  · next inhabited =>
      simp only [List.any_eq_true, decide_eq_true_eq] at inhabited
      exact ⟨fun mem => ⟨mem, fun _ => inhabited⟩, fun mem => mem.1⟩
  · next empty =>
      simp only [List.any_eq_true, decide_eq_true_eq] at empty
      rw [mem_deleteKey]
      exact and_congr_right fun _ => ⟨fun other same => absurd same other,
        fun kept same => empty (kept same)⟩

theorem apagarVazias_pessoas (familyIds : List Id) :
    ∀ db : Membresia, (db.apagarVazias familyIds).pessoas = db.pessoas ∧
      (db.apagarVazias familyIds).nextId = db.nextId := by
  induction familyIds with
  | nil => exact fun _ => ⟨rfl, rfl⟩
  | cons familyId familyIds ih =>
      intro db
      obtain ⟨people, next⟩ := ih (db.apagarSeVazia familyId)
      exact ⟨people.trans (apagarSeVazia_pessoas familyId),
        next.trans (apagarSeVazia_nextId familyId)⟩

theorem mem_apagarVazias {f : Familia} (familyIds : List Id) :
    ∀ db : Membresia, f ∈ (db.apagarVazias familyIds).families ↔
      f ∈ db.families ∧ (f.id ∈ familyIds → db.Habitada f.id) := by
  induction familyIds with
  | nil => exact fun _ => by simp [apagarVazias]
  | cons familyId familyIds ih =>
      intro db
      have rest := ih (db.apagarSeVazia familyId)
      have people : (db.apagarSeVazia familyId).Habitada f.id ↔ db.Habitada f.id := by
        simp [Habitada]
      rw [people, mem_apagarSeVazia] at rest
      refine Iff.trans rest ?_
      rw [and_assoc, List.mem_cons]
      refine and_congr_right fun _ => ⟨?_, ?_⟩
      · rintro ⟨first, later⟩ (rfl | tail)
        · exact first rfl
        · exact later tail
      · intro kept
        exact ⟨fun same => same ▸ kept (.inl same), fun tail => kept (.inr tail)⟩

theorem apagarVazias_sublist (familyIds : List Id) :
    ∀ db : Membresia, (db.apagarVazias familyIds).families.Sublist db.families := by
  induction familyIds with
  | nil => exact fun _ => List.Sublist.refl _
  | cons familyId familyIds ih =>
      intro db
      refine (ih (db.apagarSeVazia familyId)).trans ?_
      unfold apagarSeVazia
      split
      · exact List.Sublist.refl _
      · exact List.filter_sublist

theorem EmOrdem.apagarVazias (emOrdem : db.EmOrdem) (familyIds : List Id) :
    (db.apagarVazias familyIds).EmOrdem := by
  obtain ⟨people, next⟩ := apagarVazias_pessoas familyIds db
  constructor
  · rw [people, next]
    exact emOrdem.pessoas
  · rw [next]
    exact emOrdem.families.sublist (apagarVazias_sublist familyIds db)

/-- Deleting the empty ones among the families people left makes every family inhabited again. -/
theorem FamiliasCertas.apagarVazias {familyIds : List Id}
    (pertence : ∀ p ∈ db.pessoas, Pertence db.families p)
    (others : ∀ f ∈ db.families, f.id ∉ familyIds → db.Habitada f.id) :
    (db.apagarVazias familyIds).FamiliasCertas := by
  obtain ⟨people, _⟩ := apagarVazias_pessoas familyIds db
  constructor
  · intro p mem familyId inside
    rw [people] at mem
    obtain ⟨f, f_mem, rfl, church⟩ := pertence p mem familyId inside
    exact ⟨f, (mem_apagarVazias familyIds _).mpr ⟨f_mem, fun _ => ⟨p, mem, inside⟩⟩, rfl, church⟩
  · intro f mem
    obtain ⟨f_mem, kept⟩ := (mem_apagarVazias familyIds _).mp mem
    rw [Habitada, people]
    by_cases left : f.id ∈ familyIds
    · exact kept left
    · exact others f f_mem left

end Vazias

/-! ### The operations -/

/-- What every operation but one leaves: the keys, the law of the families, and nobody in a second
church. -/
structure PassoCerto (db depois : Membresia) : Prop where
  emOrdem : depois.EmOrdem
  certas : depois.FamiliasCertas
  igreja : NaoTrocaDeIgreja db depois

section Operacoes

variable {db depois : Membresia} {churchId userId id : Id}

theorem NaoTrocaDeIgreja.congr {meio : Membresia} (kept : NaoTrocaDeIgreja db meio)
    (same : depois.pessoas = meio.pessoas) : NaoTrocaDeIgreja db depois := by
  rw [NaoTrocaDeIgreja, same]
  exact kept

theorem naoTroca_refl (emOrdem : db.EmOrdem) : NaoTrocaDeIgreja db db := by
  intro p mem p' mem' same a b before after
  rw [emOrdem.pessoas.eq_of_key_eq mem' mem same] at after
  exact Option.some.inj (before.symm.trans after)

/-- A write that leaves families and churches as they are. -/
theorem passoCerto_updatePessoas {quem : Pessoa → Bool} {f : Pessoa → Pessoa} (emOrdem : db.EmOrdem)
    (certas : db.FamiliasCertas) (same_id : ∀ p, (f p).id = p.id)
    (same_family : ∀ p, (f p).familyId = p.familyId)
    (same_church : ∀ p, (f p).memberChurchId = p.memberChurchId) :
    PassoCerto db (db.updatePessoas quem f) where
  emOrdem := emOrdem.updatePessoas same_id
  certas := certas.updatePessoas (fun p _ _ => same_family p) fun p _ _ _ => same_church p
  igreja := naoTroca_updatePessoas emOrdem same_id fun p _ _ _ _ before after =>
    Option.some.inj (before.symm.trans ((same_church p).symm.trans after))

/-- Who enters was of no church, so of no family. -/
theorem passoCerto_tornarMembro {agora : Instant} (emOrdem : db.EmOrdem)
    (certas : db.FamiliasCertas)
    (ok : db.tornarMembro churchId userId agora = .ok depois) : PassoCerto db depois := by
  unfold tornarMembro at ok
  simp only [bind_eq_ok_iff, failIf_eq_ok_iff, exists_const, pure_eq_ok_iff] at ok
  obtain ⟨_, rfl⟩ := ok
  have outside : ∀ p : Pessoa, (decide (p.id = userId) && p.memberChurchId.isNone) = true →
      p.memberChurchId = none := by
    intro p picked
    simp only [Bool.and_eq_true, Option.isNone_iff_eq_none] at picked
    exact picked.2
  refine ⟨emOrdem.updatePessoas fun _ => rfl, certas.updatePessoas (fun _ _ _ => rfl) ?_,
    naoTroca_updatePessoas emOrdem (fun _ => rfl) ?_⟩
  · intro p mem picked inside
    obtain ⟨familyId, inside⟩ := Option.isSome_iff_exists.mp inside
    obtain ⟨_, _, _, church⟩ := certas.pertence p mem familyId inside
    rw [outside p picked] at church
    cases church
  · intro p _ picked _ _ before
    rw [outside p picked] at before
    cases before

theorem exigirMembro_ok {membro : Pessoa} (ok : db.exigirMembro churchId userId = .ok membro) :
    membro ∈ db.pessoas ∧ membro.id = userId := by
  unfold exigirMembro at ok
  rw [orFail_eq_ok_iff] at ok
  have named := List.find?_some ok
  simp only [Bool.and_eq_true, decide_eq_true_eq] at named
  exact ⟨List.mem_of_find?_eq_some ok, named.1⟩

/-- Taking a person out of their family, and the family with them when nobody is left. -/
theorem passoCerto_sair {f : Pessoa → Pessoa} {membro : Pessoa} (emOrdem : db.EmOrdem)
    (certas : db.FamiliasCertas) (mem : membro ∈ db.pessoas) (named : membro.id = userId)
    (same_id : ∀ p, (f p).id = p.id) (fora : ∀ p, (f p).familyId = none)
    (igreja : ∀ p a b, p.memberChurchId = some a → (f p).memberChurchId = some b → a = b) :
    PassoCerto db ((db.updatePessoas (fun p => p.id = userId) f).apagarVazias
      membro.familyId.toList) := by
  refine ⟨(emOrdem.updatePessoas same_id).apagarVazias _, FamiliasCertas.apagarVazias ?_ ?_, ?_⟩
  · intro novo novo_mem familyId inside
    obtain ⟨p, p_mem, rfl⟩ := mem_updatePessoas.mp novo_mem
    by_cases picked : p.id = userId
    · simp only [picked, decide_true, if_true, fora] at inside
      cases inside
    · simp only [picked, decide_false, Bool.false_eq_true, if_false] at inside ⊢
      exact certas.pertence p p_mem familyId inside
  · intro familia familia_mem kept
    obtain ⟨p, p_mem, inside⟩ := certas.habitada familia familia_mem
    have other : p.id ≠ userId := by
      intro same
      obtain rfl := emOrdem.pessoas.eq_of_key_eq p_mem mem (same.trans named.symm)
      exact kept (by simp [inside])
    exact ⟨p, mem_updatePessoas.mpr ⟨p, p_mem, by simp [other]⟩, inside⟩
  · refine NaoTrocaDeIgreja.congr ?_ (apagarVazias_pessoas _ _).1
    exact naoTroca_updatePessoas emOrdem same_id fun p _ _ => igreja p

/-- Who passes `exigirMembros` is a member, and the families they are in are those returned. -/
theorem exigirMembros_ok {userIds anteriores : List Id} (emOrdem : db.EmOrdem)
    (ok : db.exigirMembros churchId userIds = .ok anteriores) :
    (∀ userId ∈ userIds, ∃ p ∈ db.pessoas, p.id = userId) ∧
      ∀ p ∈ db.pessoas, p.id ∈ userIds → p.memberChurchId = some churchId ∧
        ∀ familyId, p.familyId = some familyId → familyId ∈ anteriores := by
  unfold exigirMembros at ok
  simp only [bind_eq_ok_iff, failIf_eq_ok_iff, exists_const, pure_eq_ok_iff, not_not] at ok
  obtain ⟨counted, rfl⟩ := ok
  have picked : ∀ p, p ∈ db.membrosEntre churchId userIds ↔
      p ∈ db.pessoas ∧ p.id ∈ userIds ∧ p.memberChurchId = some churchId := by
    simp [membrosEntre]
  -- as many members as distinct ids, so every id is one of them
  have nodup : ((db.membrosEntre churchId userIds).map Pessoa.id).Nodup :=
    emOrdem.pessoas.nodup.sublist (List.filter_sublist.map _)
  have among : (db.membrosEntre churchId userIds).map Pessoa.id ⊆ userIds.dedup := by
    intro userId listed
    obtain ⟨p, p_mem, rfl⟩ := List.mem_map.mp listed
    exact List.mem_dedup.mpr ((picked p).mp p_mem).2.1
  have all : ((db.membrosEntre churchId userIds).map Pessoa.id).Perm userIds.dedup :=
    (nodup.subperm among).perm_of_length_le (by simp [counted])
  have member : ∀ userId ∈ userIds, ∃ p ∈ db.membrosEntre churchId userIds, p.id = userId := by
    intro userId listed
    exact List.mem_map.mp (all.mem_iff.mpr (List.mem_dedup.mpr listed))
  refine ⟨fun userId listed => ?_, fun p mem listed => ?_⟩
  · obtain ⟨p, p_mem, named⟩ := member userId listed
    exact ⟨p, ((picked p).mp p_mem).1, named⟩
  · obtain ⟨q, q_mem, named⟩ := member p.id listed
    obtain rfl := emOrdem.pessoas.eq_of_key_eq ((picked q).mp q_mem).1 mem named
    refine ⟨((picked q).mp q_mem).2.2, fun familyId inside => ?_⟩
    exact List.mem_dedup.mpr (List.mem_filterMap.mpr ⟨q, q_mem, inside⟩)

/-- Moving members of its church into a family, and deleting the families they were alone in. -/
theorem passoCerto_porNaFamilia {alvo : Familia} {userIds anteriores : List Id}
    (emOrdem : db.EmOrdem) (pertence : ∀ p ∈ db.pessoas, Pertence db.families p)
    (habitadas : ∀ f ∈ db.families, f.id ≠ alvo.id → db.Habitada f.id)
    (alvo_mem : alvo ∈ db.families) (nonempty : ∃ p ∈ db.pessoas, p.id ∈ userIds)
    (membros : ∀ p ∈ db.pessoas, p.id ∈ userIds → p.memberChurchId = some alvo.churchId ∧
      ∀ familyId, p.familyId = some familyId → familyId = alvo.id ∨ familyId ∈ anteriores) :
    PassoCerto db ((db.porNaFamilia userIds alvo.id).apagarVazias anteriores) := by
  have moved : ∀ p ∈ db.pessoas, p.id ∈ userIds →
      { p with familyId := some alvo.id } ∈ (db.porNaFamilia userIds alvo.id).pessoas :=
    fun p mem picked => mem_updatePessoas.mpr ⟨p, mem, by simp [picked]⟩
  have ordem : (db.porNaFamilia userIds alvo.id).EmOrdem := emOrdem.updatePessoas fun _ => rfl
  refine ⟨ordem.apagarVazias _, FamiliasCertas.apagarVazias ?_ ?_, ?_⟩
  · intro novo novo_mem familyId inside
    obtain ⟨p, p_mem, rfl⟩ := mem_updatePessoas.mp novo_mem
    by_cases picked : p.id ∈ userIds
    · simp only [picked, decide_true, if_true, Option.some.injEq] at inside ⊢
      exact ⟨alvo, alvo_mem, inside, (membros p p_mem picked).1⟩
    · simp only [picked, decide_false, Bool.false_eq_true, if_false] at inside ⊢
      exact pertence p p_mem familyId inside
  · intro familia familia_mem kept
    by_cases target : familia.id = alvo.id
    · obtain ⟨p, p_mem, picked⟩ := nonempty
      exact ⟨_, moved p p_mem picked, by simp [target]⟩
    · obtain ⟨p, p_mem, inside⟩ := habitadas familia familia_mem target
      have stays : p.id ∉ userIds := by
        intro picked
        rcases (membros p p_mem picked).2 familia.id inside with same | left
        · exact target same
        · exact kept left
      exact ⟨p, mem_updatePessoas.mpr ⟨p, p_mem, by simp [stays]⟩, inside⟩
  · refine NaoTrocaDeIgreja.congr ?_ (apagarVazias_pessoas _ _).1
    refine naoTroca_updatePessoas emOrdem (fun _ => rfl) fun p _ _ a b before after => ?_
    exact Option.some.inj (before.symm.trans after)

theorem passoCerto_criarFamilia {dto : CriarFamiliaDto} (emOrdem : db.EmOrdem)
    (certas : db.FamiliasCertas) (nonempty : dto.userIds ≠ [])
    (ok : db.criarFamilia churchId dto = .ok depois) : PassoCerto db depois := by
  unfold criarFamilia at ok
  simp only [bind_eq_ok_iff, pure_eq_ok_iff] at ok
  obtain ⟨anteriores, checked, rfl⟩ := ok
  obtain ⟨present, membros⟩ := exigirMembros_ok emOrdem checked
  obtain ⟨userId, listed⟩ := List.exists_mem_of_ne_nil dto.userIds nonempty
  obtain ⟨p, p_mem, named⟩ := present userId listed
  let nova : Familia := ⟨db.nextId, churchId, trim dto.nome⟩
  let criada : Membresia :=
    { db with families := db.families ++ [nova], nextId := db.nextId + 1 }
  have criada_emOrdem : criada.EmOrdem :=
    ⟨emOrdem.pessoas.mono (Nat.le_succ _), emOrdem.families.append_fresh rfl⟩
  have done : PassoCerto criada
      ((criada.porNaFamilia dto.userIds nova.id).apagarVazias anteriores) := by
    refine passoCerto_porNaFamilia criada_emOrdem ?_ ?_
      (List.mem_append_right _ (List.mem_singleton_self nova)) ⟨p, p_mem, named ▸ listed⟩ ?_
    · intro p mem familyId inside
      obtain ⟨f, f_mem, rest⟩ := certas.pertence p mem familyId inside
      exact ⟨f, List.mem_append_left _ f_mem, rest⟩
    · intro f mem other
      rcases List.mem_append.mp mem with old | new
      · exact certas.habitada f old
      · rw [List.mem_singleton.mp new] at other
        exact absurd rfl other
    · intro p mem picked
      obtain ⟨church, families⟩ := membros p mem picked
      exact ⟨church, fun familyId inside => .inr (families familyId inside)⟩
  exact ⟨done.emOrdem, done.certas, done.igreja⟩

/-- Renaming a family. -/
theorem PassoCerto.renomear {nome : Option String} (done : PassoCerto db depois) :
    PassoCerto db (depois.renomear id nome) := by
  have same : ∀ f : Familia, (if f.id = id then f.comNome nome else f).id = f.id ∧
      (if f.id = id then f.comNome nome else f).churchId = f.churchId := by
    intro f
    split <;> exact ⟨rfl, rfl⟩
  refine ⟨⟨done.emOrdem.pessoas, done.emOrdem.families.map fun f => (same f).1⟩, ⟨?_, ?_⟩,
    done.igreja⟩
  · intro p mem familyId inside
    obtain ⟨f, f_mem, rfl, church⟩ := done.certas.pertence p mem familyId inside
    exact ⟨_, List.mem_map_of_mem f_mem, (same f).1, church.trans (congrArg some (same f).2.symm)⟩
  · intro nova mem
    obtain ⟨f, f_mem, rfl⟩ := List.mem_map.mp mem
    obtain ⟨p, p_mem, inside⟩ := done.certas.habitada f f_mem
    exact ⟨p, p_mem, inside.trans (congrArg some (same f).1.symm)⟩

theorem passoCerto_atualizarFamilia {dto : AtualizarFamiliaDto} (emOrdem : db.EmOrdem)
    (certas : db.FamiliasCertas) (ok : db.atualizarFamilia churchId id dto = .ok depois) :
    PassoCerto db depois := by
  unfold atualizarFamilia at ok
  simp only [bind_eq_ok_iff, pure_eq_ok_iff, exigirFamilia, orFail_eq_ok_iff] at ok
  obtain ⟨alvo, found, meio, entered, rfl⟩ := ok
  unfold adicionarNaFamilia at entered
  have alvo_mem := List.mem_of_find?_eq_some found
  have named := List.find?_some found
  simp only [Bool.and_eq_true, decide_eq_true_eq] at named
  obtain ⟨rfl, rfl⟩ := named
  refine PassoCerto.renomear ?_
  split at entered
  · obtain rfl := pure_eq_ok_iff.mp entered
    exact ⟨emOrdem, certas, naoTroca_refl emOrdem⟩
  · next came =>
      simp only [bind_eq_ok_iff, pure_eq_ok_iff] at entered
      obtain ⟨anteriores, checked, rfl⟩ := entered
      obtain ⟨present, membros⟩ := exigirMembros_ok emOrdem checked
      obtain ⟨userId, listed⟩ := List.exists_mem_of_ne_nil _ came
      obtain ⟨p, p_mem, named⟩ := present userId listed
      refine passoCerto_porNaFamilia emOrdem certas.pertence (fun f mem _ => certas.habitada f mem)
        alvo_mem ⟨p, p_mem, named ▸ listed⟩ ?_
      intro p mem picked
      obtain ⟨church, families⟩ := membros p mem picked
      refine ⟨church, fun familyId inside => ?_⟩
      by_cases same : familyId = alvo.id
      · exact .inl same
      · exact .inr (by simp [families familyId inside, same])

theorem passoCerto_desfazerFamilia (emOrdem : db.EmOrdem) (certas : db.FamiliasCertas)
    (ok : db.desfazerFamilia churchId id = .ok depois) : PassoCerto db depois := by
  unfold desfazerFamilia at ok
  simp only [bind_eq_ok_iff, pure_eq_ok_iff] at ok
  obtain ⟨_, _, rfl⟩ := ok
  have ordem : (db.updatePessoas (fun p => p.familyId = some id)
      fun p => { p with familyId := none }).EmOrdem := emOrdem.updatePessoas fun _ => rfl
  refine ⟨⟨ordem.pessoas, emOrdem.families.filter _⟩, ⟨?_, ?_⟩,
    naoTroca_updatePessoas emOrdem (fun _ => rfl) fun p _ _ _ _ before after =>
      Option.some.inj (before.symm.trans after)⟩
  · intro novo mem familyId inside
    obtain ⟨p, p_mem, rfl⟩ := mem_updatePessoas.mp mem
    by_cases picked : p.familyId = some id
    · simp [picked] at inside
    · simp only [picked, decide_false, Bool.false_eq_true, if_false] at inside ⊢
      obtain ⟨f, f_mem, rfl, church⟩ := certas.pertence p p_mem familyId inside
      refine ⟨f, mem_deleteKey.mpr ⟨f_mem, fun same => picked ?_⟩, rfl, church⟩
      rw [inside, same]
  · intro f mem
    obtain ⟨f_mem, other⟩ := mem_deleteKey.mp mem
    obtain ⟨p, p_mem, inside⟩ := certas.habitada f f_mem
    have stays : p.familyId ≠ some id := by
      rw [inside]
      exact fun same => other (Option.some.inj same)
    exact ⟨p, mem_updatePessoas.mpr ⟨p, p_mem, by simp [stays]⟩, inside⟩

/-- What an exclusion that goes through finds and deletes. -/
theorem excluir_ok {alvoId requesterId : Id} (ok : db.excluir alvoId requesterId = .ok depois) :
    alvoId ≠ requesterId ∧ (∃ alvo ∈ db.pessoas, alvo.id = alvoId ∧
      historicoDaConta alvo.historico = []) ∧
      depois = { db with pessoas := deleteKey Pessoa.id alvoId db.pessoas } := by
  unfold excluir at ok
  simp only [bind_eq_ok_iff, failIf_eq_ok_iff, exists_const, pure_eq_ok_iff, orFail_eq_ok_iff,
    not_not] at ok
  obtain ⟨other, alvo, found, clean, rfl⟩ := ok
  exact ⟨other, ⟨alvo, lookup_mem found, lookup_key found, clean⟩, rfl⟩

/-- An exclusion keeps everything but, maybe, the families inhabited. -/
theorem excluir_mantem {alvoId requesterId : Id} (emOrdem : db.EmOrdem) (certas : db.FamiliasCertas)
    (ok : db.excluir alvoId requesterId = .ok depois) :
    depois.EmOrdem ∧ NaoTrocaDeIgreja db depois ∧
      (depois.FamiliasCertas ↔ ¬ DeixaVazia db (.excluir alvoId requesterId)) := by
  obtain ⟨other, ⟨alvo, alvo_mem, rfl, clean⟩, rfl⟩ := excluir_ok ok
  refine ⟨⟨emOrdem.pessoas.filter _, emOrdem.families⟩, ?_, ?_, ?_⟩
  · intro p mem p' mem'
    exact naoTroca_refl emOrdem p mem p' (mem_deleteKey.mp mem').1
  · rintro law ⟨_, p, p_mem, same, _, familyId, inside, alone⟩
    obtain rfl := emOrdem.pessoas.eq_of_key_eq p_mem alvo_mem same
    obtain ⟨f, f_mem, rfl, _⟩ := certas.pertence p p_mem familyId inside
    obtain ⟨q, q_mem, q_inside⟩ := law.habitada f f_mem
    obtain ⟨q_mem, q_other⟩ := mem_deleteKey.mp q_mem
    exact q_other (alone q q_mem q_inside)
  · intro company
    refine ⟨fun p mem => certas.pertence p (mem_deleteKey.mp mem).1, fun f mem => ?_⟩
    obtain ⟨p, p_mem, inside⟩ := certas.habitada f mem
    by_cases same : p.id = alvo.id
    · obtain rfl := emOrdem.pessoas.eq_of_key_eq p_mem alvo_mem same
      -- the one excluded was in the family, so somebody else is
      by_contra empty
      refine company ⟨other, p, p_mem, rfl, clean, f.id, inside, fun q q_mem q_inside => ?_⟩
      by_contra differs
      exact empty ⟨q, mem_deleteKey.mpr ⟨q_mem, differs⟩, q_inside⟩
    · exact ⟨p, mem_deleteKey.mpr ⟨p_mem, same⟩, inside⟩

/-- Every operation that is not an exclusion. -/
theorem passoCerto_executar {acao : Acao} (emOrdem : db.EmOrdem) (certas : db.FamiliasCertas)
    (kept : ∀ alvoId requesterId, acao ≠ .excluir alvoId requesterId)
    (ok : db.executar acao = .ok depois) : PassoCerto db depois := by
  cases acao with
  | adicionar churchId userId agora =>
      simp only [executar, adicionar, bind_eq_ok_iff] at ok
      obtain ⟨_, _, _, _, _, _, entered⟩ := ok
      exact passoCerto_tornarMembro emOrdem certas entered
  | aceitar churchId userId agora =>
      simp only [executar, aceitar, bind_eq_ok_iff] at ok
      obtain ⟨_, _, _, _, entered⟩ := ok
      exact passoCerto_tornarMembro emOrdem certas entered
  | tornarMembro churchId userId agora => exact passoCerto_tornarMembro emOrdem certas ok
  | recusar churchId userId =>
      simp only [executar, recusar, bind_eq_ok_iff, pure_eq_ok_iff] at ok
      obtain ⟨_, _, rfl⟩ := ok
      exact passoCerto_updatePessoas emOrdem certas (fun _ => rfl) (fun _ => rfl) fun _ => rfl
  | remover churchId userId =>
      simp only [executar, remover, bind_eq_ok_iff, pure_eq_ok_iff] at ok
      obtain ⟨membro, found, rfl⟩ := ok
      obtain ⟨mem, named⟩ := exigirMembro_ok found
      exact passoCerto_sair emOrdem certas mem named (fun _ => rfl) (fun _ => rfl)
        fun _ _ _ _ after => by cases after
  | tirarDaFamilia churchId userId =>
      simp only [executar, tirarDaFamilia, bind_eq_ok_iff] at ok
      obtain ⟨membro, found, ok⟩ := ok
      obtain ⟨mem, named⟩ := exigirMembro_ok found
      split at ok
      · obtain rfl := pure_eq_ok_iff.mp ok
        exact ⟨emOrdem, certas, naoTroca_refl emOrdem⟩
      · next familyId inside =>
          obtain rfl := pure_eq_ok_iff.mp ok
          have done := passoCerto_sair (f := fun p => { p with familyId := none }) emOrdem
            certas mem
            named (fun _ => rfl) (fun _ => rfl)
            fun _ _ _ before after => Option.some.inj (before.symm.trans after)
          rw [inside] at done
          exact done
  | criarFamilia churchId dto =>
      simp only [executar, bind_eq_ok_iff, failIf_eq_ok_iff, exists_const] at ok
      exact passoCerto_criarFamilia emOrdem certas ok.1 ok.2
  | atualizarFamilia churchId id dto => exact passoCerto_atualizarFamilia emOrdem certas ok
  | desfazerFamilia churchId id => exact passoCerto_desfazerFamilia emOrdem certas ok
  | excluir alvoId requesterId => exact absurd rfl (kept alvoId requesterId)
  | cadastrar requestedChurchId otherChurchName =>
      simp only [executar, pure_eq_ok_iff] at ok
      obtain rfl := ok
      refine ⟨⟨emOrdem.pessoas.append_fresh rfl, emOrdem.families.mono (Nat.le_succ _)⟩,
        ⟨?_, ?_⟩, ?_⟩
      · intro p mem familyId inside
        rcases List.mem_append.mp mem with old | new
        · exact certas.pertence p old familyId inside
        · rw [List.mem_singleton.mp new] at inside
          cases inside
      · intro f mem
        obtain ⟨p, p_mem, inside⟩ := certas.habitada f mem
        exact ⟨p, List.mem_append_left _ p_mem, inside⟩
      · intro p mem p' mem' same
        rcases List.mem_append.mp mem' with old | new
        · exact naoTroca_refl emOrdem p mem p' old same
        · rw [List.mem_singleton.mp new] at same
          exact absurd same.symm (emOrdem.pessoas.lt_next p mem).ne
  | pedir userId requestedChurchId otherChurchName =>
      simp only [executar, pure_eq_ok_iff] at ok
      obtain rfl := ok
      exact passoCerto_updatePessoas emOrdem certas (fun _ => rfl) (fun _ => rfl) fun _ => rfl
  | viver userId historico =>
      simp only [executar, pure_eq_ok_iff] at ok
      obtain rfl := ok
      exact passoCerto_updatePessoas emOrdem certas (fun _ => rfl) (fun _ => rfl) fun _ => rfl

/-- An exclusion that would leave a family empty is not refused. -/
theorem excluir_of_deixaVazia {alvoId requesterId : Id} (emOrdem : db.EmOrdem)
    (leaves : DeixaVazia db (.excluir alvoId requesterId)) :
    ∃ depois, db.excluir alvoId requesterId = .ok depois := by
  obtain ⟨other, alvo, mem, rfl, clean, _⟩ := leaves
  have found := (lookup_eq_some_iff emOrdem.pessoas.nodup).mpr ⟨mem, rfl⟩
  refine ⟨{ db with pessoas := deleteKey Pessoa.id alvo.id db.pessoas }, ?_⟩
  unfold excluir
  simp only [bind_eq_ok_iff, failIf_eq_ok_iff, exists_const, orFail_eq_ok_iff, pure_eq_ok_iff,
    not_not]
  exact ⟨other, alvo, found, clean, trivial⟩

end Operacoes

/-! ### Runs -/

variable {db : Membresia}

/-- One operation: the law stays exactly when it does not exclude the only person of a family. -/
theorem agir_mantem (emOrdem : db.EmOrdem) (certas : db.FamiliasCertas) (acao : Acao) :
    (db.agir acao).EmOrdem ∧ NaoTrocaDeIgreja db (db.agir acao) ∧
      ((db.agir acao).FamiliasCertas ↔ ¬ DeixaVazia db acao) := by
  cases ok : db.executar acao with
  | error falha =>
      have parado : db.agir acao = db := by simp only [agir, ok]
      rw [parado]
      refine ⟨emOrdem, naoTroca_refl emOrdem, iff_of_true certas fun leaves => ?_⟩
      cases acao with
      | excluir alvoId requesterId =>
          obtain ⟨depois, done⟩ := excluir_of_deixaVazia emOrdem leaves
          have refused : db.excluir alvoId requesterId = .error falha := ok
          rw [refused] at done
          cases done
      | _ => exact leaves
  | ok depois =>
      have feito : db.agir acao = depois := by simp only [agir, ok]
      rw [feito]
      by_cases exclui : ∃ alvoId requesterId, acao = .excluir alvoId requesterId
      · obtain ⟨alvoId, requesterId, rfl⟩ := exclui
        exact excluir_mantem emOrdem certas ok
      · have done := passoCerto_executar emOrdem certas
          (fun alvoId requesterId same => exclui ⟨alvoId, requesterId, same⟩) ok
        refine ⟨done.emOrdem, done.igreja, iff_of_true done.certas fun leaves => exclui ?_⟩
        cases acao with
        | excluir alvoId requesterId => exact ⟨alvoId, requesterId, rfl⟩
        | _ => exact leaves.elim

/-- Over every run: people with a family are members of its church, no family is empty and nobody
changes church without leaving the first, exactly when no exclusion is of the only person of a
family. -/
theorem familiasCertas_run_iff (db : Membresia) (emOrdem : db.EmOrdem) (certas : db.FamiliasCertas)
    (acoes : List Acao) :
    (Always agir FamiliasCertas db acoes ∧
        EachStep agir (fun db acao => NaoTrocaDeIgreja db (db.agir acao)) db acoes) ↔
      EachStep agir (fun db acao => ¬ DeixaVazia db acao) db acoes := by
  have law : Always agir FamiliasCertas db acoes ↔
      EachStep agir (fun db acao => ¬ DeixaVazia db acao) db acoes :=
    always_iff_eachStep_of_invariant (I := fun db : Membresia => db.EmOrdem ∧ db.FamiliasCertas)
      (fun _ inv => inv.2)
      (fun db acao inv kept =>
        have step := agir_mantem inv.1 inv.2 acao
        ⟨step.1, step.2.2.mpr kept⟩)
      (fun db acao inv kept => (agir_mantem inv.1 inv.2 acao).2.2.mp kept) ⟨emOrdem, certas⟩
  rw [law]
  refine and_iff_left_of_imp fun kept => ?_
  have ordered : Always agir (fun db : Membresia => db.EmOrdem ∧ db.FamiliasCertas) db acoes :=
    always_of_eachStep (fun db acao inv kept =>
      have step := agir_mantem inv.1 inv.2 acao
      ⟨step.1, step.2.2.mpr kept⟩) ⟨emOrdem, certas⟩ kept
  exact ordered.eachStep fun db acao inv => (agir_mantem inv.1 inv.2 acao).2.1

/-! ### The account alone in its family -/

namespace ContaSozinha

/-- One church and nobody. -/
def vazia : Membresia where
  pessoas := []
  families := []
  igrejas := fun _ => "Igreja"
  nextId := 1

/-- An account that becomes a member and gets a family of its own. -/
def entra : List Acao :=
  [.cadastrar none none, .adicionar 7 1 0, .criarFamilia 7 ⟨"Família Souza", [1]⟩]

/-- A developer then deletes the account. -/
def exclui : List Acao := entra ++ [.excluir 1 9]

end ContaSozinha

theorem emOrdem_vazia : ContaSozinha.vazia.EmOrdem := ⟨Keyed.nil, Keyed.nil⟩

theorem certas_vazia : ContaSozinha.vazia.FamiliasCertas where
  pertence _ absent := absurd absent List.not_mem_nil
  habitada _ absent := absurd absent List.not_mem_nil

/-- With no exclusion the family is inhabited. -/
theorem familiasCertas_run_iff_entra :
    Always agir FamiliasCertas ContaSozinha.vazia ContaSozinha.entra ∧
      EachStep agir (fun db acao => NaoTrocaDeIgreja db (db.agir acao)) ContaSozinha.vazia
        ContaSozinha.entra :=
  (familiasCertas_run_iff ContaSozinha.vazia emOrdem_vazia certas_vazia ContaSozinha.entra).mpr
    ⟨id, id, id, trivial⟩

/-- The family of the account that was deleted stays in the list with nobody in it. -/
theorem not_familiasCertas_exclui :
    ¬ Always agir FamiliasCertas ContaSozinha.vazia ContaSozinha.exclui := by
  intro always
  have law : FamiliasCertas (runFrom agir ContaSozinha.vazia ContaSozinha.exclui) := always.last
  have nobody : (runFrom agir ContaSozinha.vazia ContaSozinha.exclui).pessoas = [] := by decide
  obtain ⟨familia, family, _⟩ : ∃ f ∈ (runFrom agir ContaSozinha.vazia
      ContaSozinha.exclui).families, f.id = 2 := by decide
  obtain ⟨p, mem, _⟩ := law.habitada familia family
  rw [nobody] at mem
  cases mem

end Membresia

end IccvBackend
