/-
Module: IccvBackend.Proofs.Profiles
Purpose: The stored profile of every person is the effective one, through the operations on churches
  and records.
Trusted boundary: none
Main exports: Painel.PerfisEmDia, Painel.Chaves, Painel.EmDia, Painel.emDia_agir, perfisEmDia_run
-/
import IccvBackend.Lib.Transitions
import IccvBackend.Proofs.RecordEdits

namespace IccvBackend

open Lib

/-! ### The law -/

def UserChurchRole.chave (v : UserChurchRole) : Id × Id := (v.userId, v.churchId)

namespace Painel

/-- The stored role of a person is the one the links give. -/
def PerfilCerto (db : Painel) (p : Pessoa) : Prop :=
  p.role = perfilEfetivo (some ⟨p.role, db.vinculosQueValem p.id⟩)

/-- Every stored role is the effective one; a person has one link per church, an admin's or a
treasury's; and the leader of a church is an admin of it. -/
structure PerfisEmDia (db : Painel) : Prop where
  perfil : ∀ p ∈ db.pessoas, db.PerfilCerto p
  umPorIgreja : (db.churchRoles.map UserChurchRole.chave).Nodup
  deIgreja : ∀ v ∈ db.churchRoles, v.role ∈ Role.churchRoles
  lider : ∀ i ∈ db.igrejas, ∀ userId, i.spiritualLeaderId = some userId →
    ⟨userId, i.id, Role.admin⟩ ∈ db.churchRoles

/-- The primary keys, and links between ids that were given out. -/
structure Chaves (db : Painel) : Prop where
  pessoas : Keyed Pessoa.id db.nextId db.pessoas
  igrejas : Keyed Igreja.id db.nextId db.igrejas
  vinculos : ∀ v ∈ db.churchRoles, v.userId < db.nextId ∧ v.churchId < db.nextId

end Painel

/-! ### Links and profiles -/

section Perfis

variable {db depois : Painel} {userId churchId id : Id} {p : Pessoa}

/-- The effective profile of an effective profile is itself. -/
theorem perfilEfetivo_idem (role : Int) (vinculos : List VinculoDeIgreja) :
    perfilEfetivo (some ⟨perfilEfetivo (some ⟨role, vinculos⟩), vinculos⟩) =
      perfilEfetivo (some ⟨role, vinculos⟩) := by
  by_cases global : role ∈ Role.superAdminRoles
  · simp [perfilEfetivo, global]
  · -- the links alone decide, and give no global role
    simp only [perfilEfetivo, global, if_false]
    split
    · simp
    · split <;> simp [*]

theorem perfilCerto_comPerfilEfetivo (db : Painel) (p : Pessoa) :
    db.PerfilCerto (db.comPerfilEfetivo p) :=
  (perfilEfetivo_idem p.role (db.vinculosQueValem p.id)).symm

/-- The profile of a person whose links, and the standing of their churches, did not change. -/
theorem vinculosQueValem_congr (links : depois.vinculosDe userId = db.vinculosDe userId)
    (vale : ∀ v ∈ db.vinculosDe userId, depois.vale v.churchId = db.vale v.churchId) :
    depois.vinculosQueValem userId = db.vinculosQueValem userId := by
  unfold Painel.vinculosQueValem
  rw [links]
  exact List.filter_congr vale

theorem PerfilCerto.congr (certo : db.PerfilCerto p)
    (links : depois.vinculosQueValem p.id = db.vinculosQueValem p.id) : depois.PerfilCerto p := by
  unfold Painel.PerfilCerto
  rw [links]
  exact certo

/-- The links of a person have one row per church. -/
theorem vinculosDe_nodup (um : (db.churchRoles.map UserChurchRole.chave).Nodup) (userId : Id) :
    ((db.vinculosDe userId).map VinculoDeIgreja.churchId).Nodup := by
  have keys := um.sublist ((List.filter_sublist (l := db.churchRoles)
    (p := fun v => v.userId = userId)).map UserChurchRole.chave)
  unfold Painel.vinculosDe
  rw [List.map_map]
  refine List.Nodup.of_map (Prod.mk userId) ?_
  rw [List.map_map]
  refine (List.Perm.of_eq (List.map_congr_left fun v mem => ?_)).nodup_iff.mp keys
  have named : v.userId = userId := by simpa using (List.mem_filter.mp mem).2
  simp [UserChurchRole.chave, named]

end Perfis

/-! ### Churches -/

section Igrejas

variable {db depois : Painel} {id userId : Id} {lider : Option Id}

theorem pessoas_vincularLider (db : Painel) (id : Id) (lider : Option Id) :
    (db.vincularLider id lider).pessoas = db.pessoas ∧
      (db.vincularLider id lider).igrejas = db.igrejas ∧
      (db.vincularLider id lider).nextId = db.nextId := by
  cases lider <;> exact ⟨rfl, rfl, rfl⟩

/-- Of a person other than the leader no link changes. -/
theorem vinculosDe_vincularLider (other : lider ≠ some userId) :
    (db.vincularLider id lider).vinculosDe userId = db.vinculosDe userId := by
  cases lider with
  | none => rfl
  | some l =>
      have apart : l ≠ userId := fun same => other (congrArg some same)
      unfold Painel.vincularLider Painel.vinculosDe
      dsimp only
      split
      · rw [filter_map_of_fixed (fun v => ?_) fun v here => ?_]
        · split <;> rfl
        · have away : v.userId ≠ l := fun same => apart (same.symm.trans (of_decide_eq_true here))
          simp [away]
      · rw [List.filter_append, List.filter_cons_of_neg (by simpa using apart), List.filter_nil,
          List.append_nil]

/-- The links after the leader got theirs. -/
theorem mem_vincularLider {v : UserChurchRole} :
    v ∈ (db.vincularLider id lider).churchRoles →
      v ∈ db.churchRoles ∨ (lider = some v.userId ∧ v.churchId = id ∧ v.role = Role.admin) := by
  cases lider with
  | none => exact .inl
  | some l =>
      unfold Painel.vincularLider
      dsimp only
      split
      · intro mem
        obtain ⟨old, old_mem, rfl⟩ := List.mem_map.mp mem
        split
        · rename_i here
          simp only [Bool.and_eq_true, decide_eq_true_eq] at here
          exact .inr ⟨by rw [here.1], here.2, rfl⟩
        · exact .inl old_mem
      · intro mem
        rcases List.mem_append.mp mem with old | new
        · exact .inl old
        · obtain rfl := List.mem_singleton.mp new
          exact .inr ⟨rfl, rfl, rfl⟩

theorem mem_vincularLider_of_admin {id' : Id} (mem : ⟨userId, id', Role.admin⟩ ∈ db.churchRoles) :
    ⟨userId, id', Role.admin⟩ ∈ (db.vincularLider id lider).churchRoles := by
  cases lider with
  | none => exact mem
  | some l =>
      unfold Painel.vincularLider
      dsimp only
      split
      · refine List.mem_map.mpr ⟨_, mem, ?_⟩
        split <;> rfl
      · exact List.mem_append_left _ mem

/-- The leader is an admin of the church. -/
theorem lider_vincularLider (db : Painel) (id l : Id) :
    ⟨l, id, Role.admin⟩ ∈ (db.vincularLider id (some l)).churchRoles := by
  unfold Painel.vincularLider
  dsimp only
  split
  · rename_i found
    obtain ⟨v, mem, here⟩ := List.any_eq_true.mp found
    refine List.mem_map.mpr ⟨v, mem, ?_⟩
    rw [if_pos here]
    simp only [Bool.and_eq_true, decide_eq_true_eq] at here
    rw [← here.1, ← here.2]
  · exact List.mem_append_right _ (List.mem_singleton.mpr rfl)

theorem chaves_vincularLider (um : (db.churchRoles.map UserChurchRole.chave).Nodup) :
    ((db.vincularLider id lider).churchRoles.map UserChurchRole.chave).Nodup := by
  cases lider with
  | none => exact um
  | some l =>
      unfold Painel.vincularLider
      dsimp only
      split
      · rw [List.map_map]
        refine (List.Perm.of_eq (List.map_congr_left fun v _ => ?_)).nodup_iff.mp um
        simp only [Function.comp, UserChurchRole.chave]
        split <;> rfl
      · rename_i absent
        rw [List.map_append, List.nodup_append]
        refine ⟨um, by simp, ?_⟩
        rintro chave mem _ new rfl
        obtain ⟨v, mem_v, same⟩ := List.mem_map.mp mem
        obtain rfl := List.mem_singleton.mp new
        simp only [UserChurchRole.chave, Prod.mk.injEq] at same
        exact absent (List.any_eq_true.mpr ⟨v, mem_v, by simp [same]⟩)

/-- Recalculating corrects the people of the church, and keeps those who are right already. -/
theorem perfilCerto_recalcular
    (outros : ∀ p ∈ db.pessoas, (∀ v ∈ db.vinculosDe p.id, v.churchId ≠ id) → db.PerfilCerto p) :
    ∀ p ∈ (db.recalcularPerfis id).pessoas, (db.recalcularPerfis id).PerfilCerto p := by
  intro p mem
  obtain ⟨old, old_mem, rfl⟩ := List.mem_map.mp mem
  split
  · exact perfilCerto_comPerfilEfetivo db old
  · rename_i none
    refine outros old old_mem fun v mem_v here => none ?_
    exact List.any_eq_true.mpr ⟨v, mem_v, by simpa using here⟩

theorem pessoas_recalcular_keyed {next : Nat} (keyed : Keyed Pessoa.id next db.pessoas) :
    Keyed Pessoa.id next (db.recalcularPerfis id).pessoas :=
  keyed.map fun p => by split <;> rfl

end Igrejas

/-! ### The operations on churches -/

/-- The keys and the law. -/
structure Painel.EmDia (db : Painel) : Prop where
  chaves : db.Chaves
  perfis : db.PerfisEmDia

section OperacoesDeIgreja

variable {db depois salva : Painel} {id : Id} {lider : Option Id} {dto : CreateChurchDto}

/-- A church saved with its leader: the links of the leader and the profiles of its people
follow. -/
theorem emDia_salvarIgreja (emDia : db.EmDia) (pessoas : salva.pessoas = db.pessoas)
    (vinculos : salva.churchRoles = db.churchRoles)
    (igrejas : Keyed Igreja.id salva.nextId salva.igrejas)
    (next : db.nextId ≤ salva.nextId) (dada : id < salva.nextId)
    (outras : ∀ churchId, churchId ≠ id → salva.vale churchId = db.vale churchId)
    (pessoa : ∀ l, lider = some l → l < salva.nextId)
    (lideres : ∀ i ∈ salva.igrejas, ∀ userId, i.spiritualLeaderId = some userId →
      ⟨userId, i.id, Role.admin⟩ ∈ db.churchRoles ∨ (i.id = id ∧ lider = some userId)) :
    ((salva.vincularLider id lider).recalcularPerfis id).EmDia := by
  obtain ⟨chaves, perfis⟩ := emDia
  obtain ⟨same_pessoas, same_igrejas, same_next⟩ := pessoas_vincularLider salva id lider
  refine ⟨⟨?_, ?_, ?_⟩, ⟨?_, ?_, ?_, ?_⟩⟩
  · refine pessoas_recalcular_keyed ?_
    rw [same_pessoas, pessoas]
    exact (chaves.pessoas.mono next).mono same_next.ge
  · exact same_igrejas ▸ igrejas.mono same_next.ge
  · intro v mem
    have le := next.trans same_next.ge
    rcases mem_vincularLider mem with old | ⟨isLider, here, _⟩
    · have given := chaves.vinculos v (vinculos ▸ old)
      exact ⟨given.1.trans_le le, given.2.trans_le le⟩
    · exact ⟨(pessoa v.userId isLider).trans_le same_next.ge, here ▸ dada.trans_le same_next.ge⟩
  · refine perfilCerto_recalcular fun p mem outra => ?_
    rw [same_pessoas, pessoas] at mem
    have links : (salva.vincularLider id lider).vinculosDe p.id = db.vinculosDe p.id := by
      have other : lider ≠ some p.id := by
        rintro rfl
        exact outra ⟨id, Role.admin⟩ (mem_vinculosDe.mpr (lider_vincularLider salva id p.id)) rfl
      rw [vinculosDe_vincularLider other]
      exact congrArg (fun rows : List UserChurchRole =>
        (rows.filter fun v => v.userId = p.id).map fun v =>
          (⟨v.churchId, v.role⟩ : VinculoDeIgreja)) vinculos
    refine PerfilCerto.congr (perfis.perfil p mem) (vinculosQueValem_congr links fun v mem_v => ?_)
    have away : v.churchId ≠ id := outra v (links ▸ mem_v)
    refine Eq.trans ?_ (outras v.churchId away)
    simp only [Painel.vale, Painel.igreja?, same_igrejas]
  · exact chaves_vincularLider (vinculos ▸ perfis.umPorIgreja)
  · intro v mem
    rcases mem_vincularLider mem with old | ⟨_, _, admin⟩
    · exact perfis.deIgreja v (vinculos ▸ old)
    · rw [admin]
      decide
  · intro i mem userId named
    have mem : i ∈ salva.igrejas := same_igrejas ▸ mem
    rcases lideres i mem userId named with old | ⟨rfl, rfl⟩
    · exact mem_vincularLider_of_admin (vinculos ▸ old)
    · exact lider_vincularLider salva i.id userId

theorem findLeaderOrFail_ok {userId : Option Id} (ok : db.findLeaderOrFail userId = .ok lider) :
    lider = userId ∧ ∀ l, lider = some l → ∃ p ∈ db.pessoas, p.id = l := by
  unfold Painel.findLeaderOrFail at ok
  cases userId with
  | none =>
      obtain rfl := Except.ok.inj ok
      exact ⟨rfl, fun _ absent => nomatch absent⟩
  | some userId =>
      simp only [bind_eq_ok_iff, orFail_eq_ok_iff, pure_eq_ok_iff] at ok
      obtain ⟨p, found, rfl⟩ := ok
      refine ⟨congrArg some (lookup_key found), fun l same => ⟨p, lookup_mem found, ?_⟩⟩
      exact Option.some.inj same

theorem igreja?_append {igreja : Igreja} {churchId : Id} (other : churchId ≠ igreja.id) :
    lookup Igreja.id churchId (db.igrejas ++ [igreja]) = lookup Igreja.id churchId db.igrejas := by
  have apart : igreja.id ≠ churchId := other.symm
  simp [lookup, List.find?_append, apart]

theorem emDia_createChurch (emDia : db.EmDia) (ok : db.createChurch dto = .ok depois) :
    depois.EmDia := by
  unfold Painel.createChurch at ok
  simp only [bind_eq_ok_iff, pure_eq_ok_iff] at ok
  obtain ⟨_, _, lider, found, _, _, rfl⟩ := ok
  obtain ⟨rfl, exists_p⟩ := findLeaderOrFail_ok found
  refine emDia_salvarIgreja emDia rfl rfl (emDia.chaves.igrejas.append_fresh rfl) (Nat.le_succ _)
    (Nat.lt_succ_self _) ?_ ?_ ?_
  · intro churchId other
    simp only [Painel.vale, Painel.igreja?]
    rw [igreja?_append other]
  · intro l same
    obtain ⟨p, mem, rfl⟩ := exists_p l same
    exact (emDia.chaves.pessoas.lt_next p mem).trans (Nat.lt_succ_self _)
  · intro i mem userId named
    rcases List.mem_append.mp mem with old | new
    · exact .inl (emDia.perfis.lider i old userId named)
    · obtain rfl := List.mem_singleton.mp new
      exact .inr ⟨rfl, named⟩

theorem emDia_updateChurch (emDia : db.EmDia) (ok : db.updateChurch id dto = .ok depois) :
    depois.EmDia := by
  unfold Painel.updateChurch Painel.igrejaOrFail at ok
  simp only [bind_eq_ok_iff, orFail_eq_ok_iff, pure_eq_ok_iff] at ok
  obtain ⟨igreja, there, _, _, lider, found, _, _, rfl⟩ := ok
  obtain ⟨rfl, exists_p⟩ := findLeaderOrFail_ok found
  have mem_igreja := lookup_mem there
  have named_igreja : igreja.id = id := lookup_key there
  refine emDia_salvarIgreja emDia rfl rfl (emDia.chaves.igrejas.map fun i => by split <;> rfl)
    le_rfl
    (named_igreja ▸ emDia.chaves.igrejas.lt_next igreja mem_igreja) ?_ ?_ ?_
  · intro churchId other
    simp only [Painel.vale, Painel.igreja?]
    rw [lookup_updateKey ?_ churchId, if_neg other]
    exact fun _ => rfl
  · intro l same
    obtain ⟨p, mem, rfl⟩ := exists_p l same
    exact emDia.chaves.pessoas.lt_next p mem
  · intro i mem userId named
    rcases mem_updateKey.mp mem with ⟨old, old_mem, here, rfl⟩ | ⟨old_mem, _⟩
    · -- the leader that came in the body, or the one there was
      cases came : dto.spiritualLeaderId with
      | none => exact .inl (emDia.perfis.lider old old_mem userId (by simpa [came] using named))
      | some novo => exact .inr ⟨here, by simpa [came] using named⟩
    · exact .inl (emDia.perfis.lider i old_mem userId named)

/-- A church that is removed had no links, and no leader. -/
theorem emDia_removeChurch (emDia : db.EmDia) (ok : db.removeChurch id = .ok depois) :
    depois.EmDia := by
  unfold Painel.removeChurch Painel.igrejaOrFail at ok
  simp only [bind_eq_ok_iff, orFail_eq_ok_iff, failIf_eq_ok_iff, pure_eq_ok_iff, not_or, not_lt,
    Nat.le_zero, List.length_eq_zero_iff, exists_const] at ok
  obtain ⟨igreja, there, ⟨_, semVinculos⟩, rfl⟩ := ok
  have livre : ∀ v ∈ db.churchRoles, v.churchId ≠ id := by
    intro v mem here
    have inside : v ∈ db.churchRoles.filter fun v => v.churchId = id :=
      List.mem_filter.mpr ⟨mem, decide_eq_true here⟩
    rw [semVinculos] at inside
    cases inside
  refine ⟨⟨emDia.chaves.pessoas.map fun _ => rfl, emDia.chaves.igrejas.filter _,
    emDia.chaves.vinculos⟩, ⟨?_, emDia.perfis.umPorIgreja, emDia.perfis.deIgreja, ?_⟩⟩
  · intro p mem
    obtain ⟨old, old_mem, rfl⟩ := List.mem_map.mp mem
    have certo : db.PerfilCerto (Painel.semIgreja id old) := emDia.perfis.perfil old old_mem
    refine PerfilCerto.congr certo (vinculosQueValem_congr rfl fun v mem_v => ?_)
    have away := livre _ (mem_vinculosDe.mp mem_v)
    simp only [Painel.vale, Painel.igreja?, lookup, deleteKey, List.find?_filter]
    congr 2
    funext i
    by_cases here : i.id = v.churchId
    · simp [here, away]
    · simp [here]
  · intro i mem userId named
    exact emDia.perfis.lider i (mem_deleteKey.mp mem).1 userId named

end OperacoesDeIgreja

/-! ### The operations on records -/

section Cadastros

variable {db depois : Painel} {id userId requesterId : Id} {data : UserDTO} {hash : String → String}
  {vinculos : Option (List VinculoDeIgreja)} {peloPerfil : Bool} {agora : Instant}

/-- A new person has no links yet, and is a common user. -/
theorem emDia_createUser (emDia : db.EmDia) (ok : db.createUser hash data agora = .ok depois) :
    depois.EmDia := by
  obtain ⟨chaves, perfis⟩ := emDia
  simp only [Painel.createUser, bind_eq_ok_iff, pure_eq_ok_iff] at ok
  obtain ⟨_, _, _, _, _, _, _, _, _, _, _, _, rfl⟩ := ok
  refine ⟨⟨chaves.pessoas.append_fresh (aplicarConsentimento_keeps _ _ _).1,
    chaves.igrejas.mono (Nat.le_succ _), fun v mem => ?_⟩,
    ⟨?_, perfis.umPorIgreja, perfis.deIgreja, perfis.lider⟩⟩
  · have given := chaves.vinculos v mem
    exact ⟨Nat.lt_succ_of_lt given.1, Nat.lt_succ_of_lt given.2⟩
  · intro p mem
    rcases List.mem_append.mp mem with old | new
    · exact perfis.perfil p old
    · obtain rfl := List.mem_singleton.mp new
      have semVinculos : db.vinculosQueValem db.nextId = [] := by
        rw [List.eq_nil_iff_forall_not_mem]
        exact fun v mem => absurd (chaves.vinculos _ (mem_vinculosQueValem.mp mem).1).1
          (lt_irrefl _)
      unfold Painel.PerfilCerto
      rw [(aplicarConsentimento_keeps _ _ _).1, (aplicarConsentimento_keeps _ _ _).2]
      change Role.user = perfilEfetivo (some ⟨Role.user, db.vinculosQueValem db.nextId⟩)
      rw [semVinculos]
      decide

theorem vinculosDe_trocarVinculos (other : userId ≠ id) :
    (db.trocarVinculos id vinculos).vinculosDe userId = db.vinculosDe userId := by
  cases vinculos with
  | none => rfl
  | some vs =>
      have mine : (vs.map fun v => (⟨id, v.churchId, v.role⟩ : UserChurchRole)).filter
          (fun v => v.userId = userId) = [] := by
        rw [List.filter_eq_nil_iff]
        rintro _ mem
        obtain ⟨v, _, rfl⟩ := List.mem_map.mp mem
        simpa using other.symm
      have others : (db.churchRoles.filter fun v => v.userId ≠ id).filter
          (fun v => v.userId = userId) = db.churchRoles.filter fun v => v.userId = userId := by
        rw [List.filter_filter]
        refine List.filter_congr fun v _ => ?_
        by_cases here : v.userId = userId
        · simp [here, other]
        · simp [here]
      simp only [Painel.trocarVinculos, Painel.vinculosDe, List.filter_append, mine, others,
        List.append_nil]

theorem chaves_trocarVinculos (um : (db.churchRoles.map UserChurchRole.chave).Nodup)
    (novos : ∀ vs ∈ vinculos, (vs.map VinculoDeIgreja.churchId).Nodup) :
    ((db.trocarVinculos id vinculos).churchRoles.map UserChurchRole.chave).Nodup := by
  cases vinculos with
  | none => exact um
  | some vs =>
      have novos := novos vs (Option.mem_some.mpr rfl)
      simp only [Painel.trocarVinculos, List.map_append, List.map_map, List.nodup_append]
      refine ⟨um.sublist (List.filter_sublist.map _), ?_, ?_⟩
      · refine List.Nodup.of_map Prod.snd ?_
        rw [List.map_map]
        exact novos
      · rintro _ old _ new rfl
        obtain ⟨v, v_mem, rfl⟩ := List.mem_map.mp old
        obtain ⟨w, _, same⟩ := List.mem_map.mp new
        have named : id = v.userId := congrArg Prod.fst same
        exact of_decide_eq_true (List.mem_filter.mp v_mem).2 named.symm

theorem vinculosQueValem_gravarEdicao :
    (db.gravarEdicao id data vinculos agora).vinculosQueValem userId =
      (db.trocarVinculos id vinculos).vinculosQueValem userId := by
  cases vinculos <;> rfl

/-- A link of an edited person is one of the list that came, or one there was. -/
theorem vinculoBom_of_mem {v : VinculoDeIgreja} (emDia : db.EmDia)
    (bons : ∀ vs ∈ vinculos, db.VinculosBons id vs) (mem : v ∈ vinculos.getD (db.vinculosDe id)) :
    v.role ∈ Role.churchRoles ∧ v.churchId < db.nextId := by
  cases vinculos with
  | none =>
      have row := mem_vinculosDe.mp mem
      exact ⟨emDia.perfis.deIgreja _ row, (emDia.chaves.vinculos _ row).2⟩
  | some vs =>
      have bons := bons vs (Option.mem_some.mpr rfl)
      refine ⟨bons.deIgreja v mem, ?_⟩
      rcases bons.existe v mem with row | there
      · exact (emDia.chaves.vinculos _ row).2
      · obtain ⟨igreja, there⟩ := Option.isSome_iff_exists.mp there
        exact lookup_key there ▸ emDia.chaves.igrejas.lt_next igreja (lookup_mem there)

/-- An edit with a good list of links, or with none. -/
theorem chaves_gravarEdicao (emDia : db.EmDia) (existe : (db.pessoa? id).isSome)
    (bons : ∀ vs ∈ vinculos, db.VinculosBons id vs) :
    (db.gravarEdicao id data vinculos agora).Chaves := by
  obtain ⟨links, igrejas, next⟩ := gravarEdicao_rest db id data vinculos agora
  obtain ⟨pessoa, found⟩ := Option.isSome_iff_exists.mp existe
  refine ⟨?_, ?_, ?_⟩
  · rw [next]
    cases vinculos <;>
      exact (emDia.chaves.pessoas.map fun p => by
        split
        · exact editarPessoa_id data agora p
        · rfl).map fun p => by split <;> rfl
  · rw [next, igrejas]
    exact emDia.chaves.igrejas
  · intro v mem
    rw [links, mem_trocarVinculos] at mem
    rw [next]
    split at mem
    · rename_i here
      have given : id < db.nextId :=
        lookup_key found ▸ emDia.chaves.pessoas.lt_next pessoa (lookup_mem found)
      exact ⟨here ▸ given, (vinculoBom_of_mem emDia bons mem).2⟩
    · exact emDia.chaves.vinculos v mem

theorem perfis_gravarEdicao (emDia : db.EmDia) (bons : ∀ vs ∈ vinculos, db.VinculosBons id vs) :
    (db.gravarEdicao id data vinculos agora).PerfisEmDia := by
  obtain ⟨links, igrejas, _⟩ := gravarEdicao_rest db id data vinculos agora
  have perfis := emDia.perfis
  refine ⟨?_, ?_, ?_, ?_⟩
  · intro p mem
    rcases mem_gravarEdicao.mp mem with ⟨old, _, _, rfl⟩ | ⟨mem, other⟩
    · refine PerfilCerto.congr (perfilCerto_comPerfilEfetivo _ _) ?_
      exact vinculosQueValem_gravarEdicao
    · refine PerfilCerto.congr (perfis.perfil p mem) (vinculosQueValem_gravarEdicao.trans ?_)
      refine vinculosQueValem_congr (vinculosDe_trocarVinculos other) fun v _ => ?_
      cases vinculos <;> rfl
  · rw [links]
    exact chaves_trocarVinculos perfis.umPorIgreja fun vs mem => (bons vs mem).umPorIgreja
  · intro v mem
    rw [links, mem_trocarVinculos] at mem
    split at mem
    · exact (vinculoBom_of_mem emDia bons mem).1
    · exact perfis.deIgreja v mem
  · intro i mem userId named
    rw [igrejas] at mem
    have before := perfis.lider i mem userId named
    rw [links, mem_trocarVinculos]
    split
    · rename_i here
      subst here
      have before := (mem_vinculosDe (v := ⟨i.id, Role.admin⟩)).mpr before
      cases vinculos with
      | none => exact before
      | some vs => exact (bons vs (Option.mem_some.mpr rfl)).lider i mem named before
    · exact before

theorem emDia_updateUser (emDia : db.EmDia)
    (ok : db.updateUser id data (some requesterId) peloPerfil agora = .ok depois) :
    depois.EmDia := by
  obtain ⟨atual, resto, vinculos, found, restrito, _, rfl⟩ := updateUser_ok ok
  have existe : (db.pessoa? id).isSome := Option.isSome_iff_exists.mpr ⟨atual, found⟩
  have bons : ∀ vs ∈ vinculos, db.VinculosBons id vs := by
    intro vs mem
    cases restrito with
    | semPainel => cases mem
    | doPainel _ _ _ _ _ resolvidos =>
        obtain ⟨pedidos, resolved⟩ := resolvidos vs mem
        exact (resolveVinculos_ok (vinculosDe_nodup emDia.perfis.umPorIgreja id)
          (fun v mem => emDia.perfis.deIgreja _ (mem_vinculosDe.mp mem)) resolved).1
  exact ⟨chaves_gravarEdicao emDia existe bons, perfis_gravarEdicao emDia bons⟩

/-- The wrong passwords of an account are no part of the law. -/
theorem emDia_erros (emDia : db.EmDia) (erros : Id → Option ErrosDeSenha) :
    { db with errosDeSenhaAtual := erros }.EmDia :=
  ⟨⟨emDia.chaves.pessoas, emDia.chaves.igrejas, emDia.chaves.vinculos⟩,
    ⟨emDia.perfis.perfil, emDia.perfis.umPorIgreja, emDia.perfis.deIgreja, emDia.perfis.lider⟩⟩

end Cadastros

/-! ### Runs -/

theorem emDia_guardado : Painel.Guardado Painel.EmDia where
  createChurch := emDia_createChurch
  updateChurch := emDia_updateChurch
  removeChurch := emDia_removeChurch
  createUser := emDia_createUser
  updateUser := emDia_updateUser
  erros erros emDia := emDia_erros emDia erros

/-- Every operation keeps the keys and the law. -/
theorem Painel.emDia_agir (bcrypt : Bcrypt) (db : Painel) (acao : Painel.Acao) (emDia : db.EmDia) :
    (db.agir bcrypt acao).EmDia :=
  emDia_guardado.agir bcrypt db acao emDia

/-- From a state with the profiles up to date, every order of operations on churches and records
keeps them so. -/
theorem perfisEmDia_run (bcrypt : Bcrypt) (db : Painel) (chaves : db.Chaves)
    (perfis : db.PerfisEmDia) (acoes : List Painel.Acao) :
    Always (Painel.agir bcrypt) Painel.PerfisEmDia db acoes := by
  have always := always_of_step (Painel.emDia_agir bcrypt) ⟨chaves, perfis⟩ acoes
  exact always.mono fun _ emDia => emDia.perfis

namespace SedeComLider

/-- A church whose leader, person 7, is its admin. -/
def painel : Painel where
  igrejas := [⟨1, "Sede", .active, some 7, none⟩]
  planos := []
  pessoas := [⟨7, Role.admin, "a@b.c", "1", "", "Ana", ⟨none, none, none⟩, none, none, none,
    none, []⟩]
  bloqueios := []
  churchRoles := [⟨7, 1, Role.admin⟩]
  eventos := []
  eventTreasurers := []
  eventAdmins := []
  inscricoes := []
  esperas := []
  pagamentos := []
  errosDeSenhaAtual := fun _ => none
  nextId := 100

/-- The church goes inactive, and comes back. -/
def acoes : List Painel.Acao :=
  [.updateChurch 1 ⟨"Sede", some .inactive, none, none⟩,
    .updateChurch 1 ⟨"Sede", some .active, none, none⟩]

theorem chaves : painel.Chaves :=
  ⟨⟨by decide, by decide⟩, ⟨by decide, by decide⟩, by decide⟩

theorem perfisEmDia : painel.PerfisEmDia where
  perfil p mem := by
    obtain rfl := List.mem_singleton.mp mem
    unfold Painel.PerfilCerto
    decide +kernel
  umPorIgreja := by decide
  deIgreja := by decide
  lider i mem userId named := by
    obtain rfl := List.mem_singleton.mp mem
    obtain rfl := Option.some.inj named
    decide

end SedeComLider

theorem perfisEmDia_run_sede : Always (Painel.agir ⟨id, fun _ _ => false⟩) Painel.PerfisEmDia
    SedeComLider.painel SedeComLider.acoes :=
  perfisEmDia_run ⟨id, fun _ _ => false⟩ SedeComLider.painel SedeComLider.chaves
    SedeComLider.perfisEmDia SedeComLider.acoes

end IccvBackend
