/-
Module: IccvBackend.Proofs.RecordEdits
Purpose: What an accepted edit of a record asked for and what it writes, and the rule for what every
  operation keeps.
Trusted boundary: none
Main exports: VinculosBons, resolveVinculos_ok, Restrito, restringir_ok, updateUser_ok,
  updateMe_ends, permissaoDeUma_ends, mem_trocarVinculos, mem_gravarEdicao, Painel.Guardado,
  Guardado.agir
-/
import IccvBackend.Auth.Panel
import IccvBackend.Proofs.Guards

namespace IccvBackend

open Lib

/-! ### Links -/

section Vinculos

variable {db : Painel} {userId id : Id} {atuais final vinculos : List VinculoDeIgreja}
  {requester : Option TenantRequester} {pedidos : Option (List VinculoDeIgreja)}

theorem mem_vinculosDe {v : VinculoDeIgreja} :
    v ∈ db.vinculosDe userId ↔ ⟨userId, v.churchId, v.role⟩ ∈ db.churchRoles := by
  simp only [Painel.vinculosDe, List.mem_map, List.mem_filter, decide_eq_true_eq]
  constructor
  · rintro ⟨row, ⟨mem, rfl⟩, rfl⟩
    exact mem
  · exact fun mem => ⟨⟨userId, v.churchId, v.role⟩, ⟨mem, rfl⟩, rfl⟩

/-- What a list of links has to be to replace those of a person. -/
structure Painel.VinculosBons (db : Painel) (id : Id) (vinculos : List VinculoDeIgreja) : Prop where
  deIgreja : ∀ v ∈ vinculos, v.role ∈ Role.churchRoles
  umPorIgreja : (vinculos.map VinculoDeIgreja.churchId).Nodup
  existe : ∀ v ∈ vinculos, ⟨id, v.churchId, v.role⟩ ∈ db.churchRoles ∨
    (db.igreja? v.churchId).isSome
  lider : ∀ i ∈ db.igrejas, i.spiritualLeaderId = some id →
    ⟨i.id, Role.admin⟩ ∈ db.vinculosDe id → ⟨i.id, Role.admin⟩ ∈ vinculos

/-- The leader keeps the admin of the churches that the person leads. -/
theorem assertLiderSegueAdmin_ok (ok : db.assertLiderSegueAdmin id atuais final = .ok ()) :
    ∀ i ∈ db.igrejas, i.spiritualLeaderId = some id → ⟨i.id, Role.admin⟩ ∈ atuais →
      ⟨i.id, Role.admin⟩ ∈ final := by
  intro i mem leads before
  unfold Painel.assertLiderSegueAdmin at ok
  dsimp only at ok
  split at ok
  · rename_i none_lost
    have kept := List.find?_eq_none.mp none_lost i mem
    simp only [List.mem_filter, List.mem_map, leads, Bool.and_eq_true, decide_eq_true_eq,
      and_true, not_and, not_not] at kept
    obtain ⟨v, ⟨v_mem, admin⟩, here⟩ := kept ⟨_, ⟨before, rfl⟩, rfl⟩
    rwa [← here, ← admin]
  · cases ok

/-- A person below the super admin changes links of the churches they administer only. -/
theorem resolveVinculos_ok (um : ((db.vinculosDe id).map VinculoDeIgreja.churchId).Nodup)
    (deIgreja : ∀ v ∈ db.vinculosDe id, v.role ∈ Role.churchRoles)
    (ok : db.resolveVinculos requester id pedidos = .ok vinculos) :
    db.VinculosBons id vinculos ∧
      (isSuperAdmin requester = false → ∀ v : VinculoDeIgreja,
        v.churchId ∉ churchIdsComPerfil requester [Role.admin] →
          (v ∈ vinculos ↔ v ∈ db.vinculosDe id)) := by
  simp only [Painel.resolveVinculos, bind_eq_ok_iff, failIf_eq_ok_iff, exists_const, not_not,
    List.any_eq_true, List.mem_map, decide_eq_true_eq, not_exists, not_and] at ok
  obtain ⟨roles, um', there, ok⟩ := ok
  have there : ∀ v ∈ pedidos.getD [], (db.igreja? v.churchId).isSome :=
    fun v mem => Option.isSome_iff_ne_none.mpr fun gone => there _ ⟨v, mem, rfl⟩ (by simp [gone])
  split at ok
  · rename_i global
    simp only [bind_eq_ok_iff, pure_eq_ok_iff] at ok
    obtain ⟨_, lider, rfl⟩ := ok
    exact ⟨⟨roles, um', fun v mem => .inr (there v mem), assertLiderSegueAdmin_ok lider⟩,
      fun notGlobal => absurd global (by simp [notGlobal])⟩
  · simp only [bind_eq_ok_iff, pure_eq_ok_iff, failIf_eq_ok_iff, exists_const, List.any_eq_true,
      List.mem_map, decide_eq_true_eq, not_exists, not_and, not_not] at ok
    obtain ⟨_, minhas, _, lider, rfl⟩ := ok
    have minhas : ∀ v ∈ pedidos.getD [], v.churchId ∈ churchIdsComPerfil requester [Role.admin] :=
      fun v mem => minhas _ ⟨v, mem, rfl⟩
    refine ⟨⟨?_, ?_, ?_, assertLiderSegueAdmin_ok lider⟩, fun _ v away => ?_⟩
    · intro v mem
      rcases List.mem_append.mp mem with kept | asked
      · exact deIgreja v (List.mem_filter.mp kept).1
      · exact roles v asked
    · rw [List.map_append, List.nodup_append]
      refine ⟨um.sublist (List.filter_sublist.map _), um', ?_⟩
      rintro churchId kept _ asked rfl
      obtain ⟨v, v_mem, rfl⟩ := List.mem_map.mp kept
      obtain ⟨w, w_mem, same⟩ := List.mem_map.mp asked
      exact of_decide_eq_true (List.mem_filter.mp v_mem).2 (same ▸ minhas w w_mem)
    · intro v mem
      rcases List.mem_append.mp mem with kept | asked
      · exact .inl (mem_vinculosDe.mp (List.mem_filter.mp kept).1)
      · exact .inr (there v asked)
    · rw [List.mem_append]
      constructor
      · rintro (kept | asked)
        · exact (List.mem_filter.mp kept).1
        · exact absurd (minhas v asked) away
      · exact fun mem => .inl (List.mem_filter.mpr ⟨mem, by simpa using away⟩)

end Vinculos

/-! ### What was asked -/

/-- The stored role of the requester is one of the panel's. -/
def Painel.admin? (db : Painel) (requesterId : Id) : Bool :=
  isAdminRole ((db.tenant? requesterId).map TenantRequester.role)

/-- What the restrictions leave of a body, and the links to store. -/
inductive Painel.Restrito (db : Painel) (requesterId id : Id) (data : UserDTO) (atual : Pessoa) :
    UserDTO → Option (List VinculoDeIgreja) → Prop where
  /-- Without the panel, or through an event: the permissions that came are ignored. -/
  | semPainel (fora : db.admin? requesterId = false ∨ db.comoAdminDeEvento requesterId id = true)
      (deEvento : db.conferirAdminDeEvento requesterId id data atual = .ok ())
      (proprio : db.admin? requesterId = true ∨ requesterId = id ∨
        db.comoAdminDeEvento requesterId id = true)
      (dev : assertDevAccountIsUntouchable atual.role (db.tenant? requesterId) = .ok ()) :
      Restrito db requesterId id data atual { data with role := none, churchRoles := none } none
  | doPainel {vinculos : Option (List VinculoDeIgreja)} (admin : db.admin? requesterId = true)
      (direto : db.comoAdminDeEvento requesterId id = false)
      (dev : assertDevAccountIsUntouchable atual.role (db.tenant? requesterId) = .ok ())
      (deIgreja : db.conferirAdminDaIgreja requesterId id data atual = .ok ())
      (perfil : conferirPerfilPedido (db.tenant? requesterId) data.role = .ok ())
      (resolvidos : ∀ vs ∈ vinculos, ∃ pedidos,
        db.resolveVinculos (db.tenant? requesterId) id pedidos = .ok vs) :
      Restrito db requesterId id data atual data vinculos

section Edicao

variable {db depois : Painel} {userId requesterId id : Id} {data resto : UserDTO} {atual p : Pessoa}
  {vinculos : Option (List VinculoDeIgreja)} {peloPerfil : Bool} {agora : Instant}

theorem restringir_ok
    (ok : db.restringir requesterId id peloPerfil data atual = .ok (resto, vinculos)) :
    db.Restrito requesterId id data atual resto vinculos := by
  simp only [Painel.restringir, bind_eq_ok_iff, failIf_eq_ok_iff, exists_const,
    Bool.and_eq_true, Bool.not_eq_true', not_and, decide_eq_true_eq] at ok
  obtain ⟨_, deEvento, proprio, _, _, dev, ok⟩ := ok
  split at ok
  · rename_i fora
    obtain ⟨rfl, rfl⟩ := Prod.mk.inj (Except.ok.inj ok)
    refine .semPainel (by simpa [Painel.admin?] using fora) deEvento ?_ dev
    by_contra others
    simp only [not_or, Bool.not_eq_true] at others
    exact proprio ⟨others.1, others.2.1⟩ others.2.2
  · rename_i painel
    simp only [Bool.or_eq_true, Bool.not_eq_true', not_or, Bool.not_eq_false,
      Bool.not_eq_true] at painel
    simp only [bind_eq_ok_iff] at ok
    obtain ⟨_, deIgreja, _, perfil, ok⟩ := ok
    cases asked : data.churchRoles with
    | none =>
        rw [asked] at ok
        obtain ⟨rfl, rfl⟩ := Prod.mk.inj (Except.ok.inj ok)
        exact .doPainel painel.1 painel.2 dev deIgreja perfil (by simp)
    | some pedidos =>
        simp only [asked, bind_eq_ok_iff, pure_eq_ok_iff, Prod.mk.injEq] at ok
        obtain ⟨vs, resolved, rfl, rfl⟩ := ok
        refine .doPainel painel.1 painel.2 dev deIgreja perfil fun other same => ?_
        obtain rfl := Option.mem_some.mp same
        exact ⟨pedidos, resolved⟩

theorem updateUser_ok (ok : db.updateUser id data (some requesterId) peloPerfil agora =
    .ok depois) :
    ∃ atual resto vinculos, db.pessoa? id = some atual ∧
      db.Restrito requesterId id data atual resto vinculos ∧
      db.recusadoNoBanco id resto = false ∧ depois = db.gravarEdicao id resto vinculos agora := by
  simp only [Painel.updateUser, bind_eq_ok_iff, orFail_eq_ok_iff, failIf_eq_ok_iff, pure_eq_ok_iff,
    exists_const, Bool.not_eq_true] at ok
  obtain ⟨atual, found, ⟨resto, vinculos⟩, restrito, _, aceito, rfl⟩ := ok
  exact ⟨atual, resto, vinculos, found, restringir_ok restrito, aceito, rfl⟩

/-- The end of `updateMe`: the edit is saved, or nothing is. -/
theorem gravar_ends (db : Painel) (id : Id) (data : UserDTO) (agora : Instant)
    {fim : Painel × Except Failure Unit}
    (same : fim = match db.updateUser id data (some id) true agora with
      | .ok depois => (depois, .ok ())
      | .error e => (db, .error e)) :
    (fim.1 = db ∧ fim.2.isOk = false) ∨ db.updateUser id data (some id) true agora = .ok fim.1 := by
  subst same
  split
  · rename_i saved
    exact .inr saved
  · exact .inl ⟨rfl, rfl⟩

/-- A person's own edit counts the password that came, and then may edit with no permission in the
body. -/
theorem updateMe_ends (db : Painel) (compara : String → String → Bool) (userId : Id)
    (dto : UpdateMeDto) (agora : Instant) :
    ∃ erros, ((db.updateMe compara userId dto agora).1 = { db with errosDeSenhaAtual := erros } ∧
        (db.updateMe compara userId dto agora).2.isOk = false) ∨
      ∃ dados : UserDTO, dados.role = none ∧ dados.churchRoles = none ∧
        dados.sensitiveDataConsent = dto.dados.sensitiveDataConsent ∧
        { db with errosDeSenhaAtual := erros }.updateUser userId dados (some userId) true agora =
          .ok (db.updateMe compara userId dto agora).1 := by
  unfold Painel.updateMe
  split
  · exact ⟨db.errosDeSenhaAtual, .inl ⟨rfl, rfl⟩⟩
  split
  · exact ⟨db.errosDeSenhaAtual, .inl ⟨rfl, rfl⟩⟩
  dsimp only
  split
  · rcases gravar_ends db userId
      { dto.dados with cpf := none, role := none, churchRoles := none, password := none } agora rfl
      with ⟨same, refused⟩ | saved
    · exact ⟨db.errosDeSenhaAtual, .inl ⟨same, refused⟩⟩
    · refine ⟨db.errosDeSenhaAtual, .inr ⟨_, ?_, ?_, ?_, saved⟩⟩ <;> rfl
  split
  · exact ⟨db.errosDeSenhaAtual, .inl ⟨rfl, rfl⟩⟩
  split
  · refine ⟨_, (gravar_ends _ _ _ _ rfl).imp_right fun saved => ⟨_, ?_, ?_, ?_, saved⟩⟩ <;> rfl
  · exact ⟨_, .inl ⟨rfl, rfl⟩⟩

/-- One person of a bulk edit: nothing, or an edit of someone else. -/
theorem permissaoDeUma_ends (lido : Painel) (requesterId : Id) (dto : PermissoesEmMassaDto)
    (agora : Instant) (db : Painel) (id : Id) :
    Painel.permissaoDeUma lido requesterId dto agora db id = db ∨
      requesterId ≠ id ∧ ∃ data, db.updateUser id data (some requesterId) false agora =
        .ok (Painel.permissaoDeUma lido requesterId dto agora db id) := by
  unfold Painel.permissaoDeUma
  dsimp only
  split
  · exact .inl rfl
  split
  · exact .inl rfl
  split
  · exact .inl rfl
  rename_i other _
  split
  · rename_i saved
    exact .inr ⟨fun same => other same.symm, _, saved⟩
  · exact .inl rfl

/-! ### What is written -/

theorem aplicarConsentimento_keeps (data : UserDTO) (agora : Instant) (p : Pessoa) :
    (aplicarConsentimento data agora p).id = p.id ∧
      (aplicarConsentimento data agora p).role = p.role := by
  unfold aplicarConsentimento
  dsimp only
  split
  · exact ⟨rfl, rfl⟩
  · exact ⟨rfl, rfl⟩
  · split <;> exact ⟨rfl, rfl⟩

theorem editarPessoa_keeps (data : UserDTO) (agora : Instant) (p : Pessoa) :
    (Painel.editarPessoa data agora p).id = p.id ∧
      (Painel.editarPessoa data agora p).memberChurchId = p.memberChurchId ∧
      (Painel.editarPessoa data agora p).requestedChurchId = p.requestedChurchId := by
  unfold Painel.editarPessoa aplicarConsentimento
  dsimp only
  split
  · exact ⟨rfl, rfl, rfl⟩
  · exact ⟨rfl, rfl, rfl⟩
  · split <;> exact ⟨rfl, rfl, rfl⟩

theorem editarPessoa_id (data : UserDTO) (agora : Instant) (p : Pessoa) :
    (Painel.editarPessoa data agora p).id = p.id :=
  (editarPessoa_keeps data agora p).1

/-- The links of the other people stay, and those of the person are the list that came. -/
theorem mem_trocarVinculos {v : UserChurchRole} :
    v ∈ (db.trocarVinculos id vinculos).churchRoles ↔
      if v.userId = id then ⟨v.churchId, v.role⟩ ∈ vinculos.getD (db.vinculosDe id)
      else v ∈ db.churchRoles := by
  cases vinculos with
  | none =>
      by_cases here : v.userId = id
      · subst here
        simpa [Painel.trocarVinculos] using (mem_vinculosDe (v := ⟨v.churchId, v.role⟩)).symm
      · simp [Painel.trocarVinculos, here]
  | some vs =>
      simp only [Painel.trocarVinculos, List.mem_append, List.mem_filter, List.mem_map,
        decide_not, Bool.not_eq_true', decide_eq_false_iff_not, Option.getD_some]
      by_cases here : v.userId = id
      · subst here
        simp only [not_true_eq_false, and_false, false_or, if_true]
        constructor
        · rintro ⟨w, mem, same⟩
          rwa [← same]
        · exact fun mem => ⟨_, mem, rfl⟩
      · simp only [here, not_false_iff, and_true, if_false, or_iff_left_iff_imp]
        rintro ⟨w, _, rfl⟩
        exact absurd rfl here

/-- Another person's row stays, and the edited one is the person's with the effective profile. -/
theorem mem_gravarEdicao :
    p ∈ (db.gravarEdicao id data vinculos agora).pessoas ↔
      (∃ old ∈ db.pessoas, old.id = id ∧
        p = (db.trocarVinculos id vinculos).comPerfilEfetivo (Painel.editarPessoa data agora old)) ∨
      (p ∈ db.pessoas ∧ p.id ≠ id) := by
  have pessoas : (db.gravarEdicao id data vinculos agora).pessoas =
      updateKey Pessoa.id id (db.trocarVinculos id vinculos).comPerfilEfetivo
        (updateKey Pessoa.id id (Painel.editarPessoa data agora) db.pessoas) := by
    cases vinculos <;> rfl
  rw [pessoas, mem_updateKey]
  simp only [mem_updateKey]
  constructor
  · rintro (⟨_, ⟨old, mem, here, rfl⟩ | ⟨_, other⟩, same, rfl⟩ | ⟨⟨old, _, here, rfl⟩ | ⟨mem, _⟩,
      other⟩)
    · exact .inl ⟨old, mem, here, rfl⟩
    · exact absurd same other
    · exact absurd ((editarPessoa_id data agora old).trans here) other
    · exact .inr ⟨mem, other⟩
  · rintro (⟨old, mem, here, rfl⟩ | ⟨mem, other⟩)
    · exact .inl ⟨_, .inl ⟨old, mem, here, rfl⟩, (editarPessoa_id data agora old).trans here, rfl⟩
    · exact .inr ⟨.inr ⟨mem, other⟩, other⟩

/-- An edit writes the records and the links. -/
theorem gravarEdicao_rest (db : Painel) (id : Id) (data : UserDTO)
    (vinculos : Option (List VinculoDeIgreja)) (agora : Instant) :
    (db.gravarEdicao id data vinculos agora).churchRoles =
    (db.trocarVinculos id vinculos).churchRoles ∧
      (db.gravarEdicao id data vinculos agora).igrejas = db.igrejas ∧
      (db.gravarEdicao id data vinculos agora).nextId = db.nextId := by
  cases vinculos <;> exact ⟨rfl, rfl, rfl⟩

end Edicao

/-! ### What every operation keeps -/

theorem Painel.ouComoEstava_keeps {P : Painel → Prop} {db : Painel}
    {resultado : Except Failure Painel} (holds : P db)
    (saved : ∀ depois, resultado = .ok depois → P depois) : P (db.ouComoEstava resultado) := by
  cases resultado with
  | ok depois => exact saved depois rfl
  | error e => exact holds

/-- A property that each write keeps. -/
structure Painel.Guardado (P : Painel → Prop) : Prop where
  createChurch {db depois : Painel} {dto : CreateChurchDto} :
    P db → db.createChurch dto = .ok depois → P depois
  updateChurch {db depois : Painel} {id : Id} {dto : CreateChurchDto} :
    P db → db.updateChurch id dto = .ok depois → P depois
  removeChurch {db depois : Painel} {id : Id} : P db → db.removeChurch id = .ok depois → P depois
  createUser {db depois : Painel} {hash : String → String} {data : UserDTO} {agora : Instant} :
    P db → db.createUser hash data agora = .ok depois → P depois
  updateUser {db depois : Painel} {id requesterId : Id} {data : UserDTO} {peloPerfil : Bool}
      {agora : Instant} :
    P db → db.updateUser id data (some requesterId) peloPerfil agora = .ok depois → P depois
  erros {db : Painel} (erros : Id → Option ErrosDeSenha) :
    P db → P { db with errosDeSenhaAtual := erros }

namespace Painel.Guardado

variable {P : Painel → Prop} {db lido depois : Painel} {id requesterId userId : Id}
  {agora : Instant}

theorem updateMe (guardado : Guardado P) (holds : P db) (compara : String → String → Bool)
    (dto : UpdateMeDto) : P (db.updateMe compara userId dto agora).1 := by
  obtain ⟨erros, ⟨same, _⟩ | ⟨dados, _, _, _, saved⟩⟩ := updateMe_ends db compara userId dto agora
  · rw [same]
    exact guardado.erros erros holds
  · exact guardado.updateUser (guardado.erros erros holds) saved

theorem permissaoDeUma (guardado : Guardado P) {dto : PermissoesEmMassaDto} (holds : P db) :
    P (Painel.permissaoDeUma lido requesterId dto agora db id) := by
  rcases permissaoDeUma_ends lido requesterId dto agora db id with same | ⟨_, _, saved⟩
  · rw [same]
    exact holds
  · exact guardado.updateUser holds saved

theorem atualizarPermissoesEmMassa (guardado : Guardado P) {dto : PermissoesEmMassaDto}
    (holds : P db) (ok : db.atualizarPermissoesEmMassa requesterId dto agora = .ok depois) :
    P depois := by
  simp only [Painel.atualizarPermissoesEmMassa, bind_eq_ok_iff, pure_eq_ok_iff] at ok
  obtain ⟨_, _, _, _, _, _, rfl⟩ := ok
  exact List.foldlRecOn (motive := P) _ _ holds fun _ holds _ _ => guardado.permissaoDeUma holds

/-- The rule: what each write keeps, every operation keeps. -/
theorem agir (guardado : Guardado P) (bcrypt : Bcrypt) (db : Painel) (acao : Acao) (holds : P db) :
    P (db.agir bcrypt acao) := by
  cases acao with
  | createChurch dto => exact ouComoEstava_keeps holds fun _ => guardado.createChurch holds
  | updateChurch id dto => exact ouComoEstava_keeps holds fun _ => guardado.updateChurch holds
  | removeChurch id => exact ouComoEstava_keeps holds fun _ => guardado.removeChurch holds
  | createUser data agora => exact ouComoEstava_keeps holds fun _ => guardado.createUser holds
  | updateUser id data requesterId agora =>
      exact ouComoEstava_keeps holds fun _ => guardado.updateUser holds
  | updateMe userId dto agora => exact guardado.updateMe holds bcrypt.compara dto
  | atualizarPermissoesEmMassa requesterId dto agora =>
      exact ouComoEstava_keeps holds fun _ => guardado.atualizarPermissoesEmMassa holds

end Painel.Guardado

end IccvBackend
