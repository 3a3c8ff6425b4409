/-
Module: IccvBackend.Proofs.Escalation
Purpose: A person below the super admin gives no global profile, touches no account that has one,
  and changes links of the churches they administer only.
Trusted boundary: none
Main exports: Painel.Administra, Painel.NaoEscala, naoEscala_updateUser, naoEscala_emMassa,
  naoEscala_run
-/
import IccvBackend.Proofs.Profiles

namespace IccvBackend

open Lib

/-! ### The law -/

namespace Painel

/-- A link of admin that holds. -/
def Administra (db : Painel) (requesterId churchId : Id) : Prop :=
  ⟨requesterId, churchId, Role.admin⟩ ∈ db.churchRoles ∧ db.vale churchId

/-- What a call of a person without a global profile may do.  A link is who, where and which role:
the list is stored whole, and the links that are kept are stored again. -/
structure NaoEscala (db depois : Painel) (requesterId : Id) : Prop where
  ninguemSobe : ∀ id p, depois.pessoa? id = some p → p.role ∈ Role.superAdminRoles →
    db.pessoa? id = some p
  intocados : ∀ id p, db.pessoa? id = some p → p.role ∈ Role.superAdminRoles →
    depois.pessoa? id = some p ∧ depois.vinculosDe id = db.vinculosDe id
  vinculos : ∀ v, (v ∈ depois.churchRoles ↔ v ∈ db.churchRoles) ∨
    db.Administra requesterId v.churchId
  peloEvento : ∀ id p, db.pessoa? id = some p → db.comoAdminDeEvento requesterId id →
    depois.vinculosDe id = db.vinculosDe id ∧ ∃ p', depois.pessoa? id = some p' ∧
      p'.role = p.role ∧ p'.email = p.email ∧ p'.cpf = p.cpf

theorem NaoEscala.refl (db : Painel) (requesterId : Id) : db.NaoEscala db requesterId :=
  ⟨fun _ _ found _ => found, fun _ _ found _ => ⟨found, rfl⟩, fun _ => .inl Iff.rfl,
    fun _ p found _ => ⟨rfl, p, found, rfl, rfl, rfl⟩⟩

/-- The requester has the profile and the links they had, and whom they reached through an event is
still reached so. -/
structure MesmoPoder (db depois : Painel) (requesterId : Id) : Prop where
  quem : depois.tenant? requesterId = db.tenant? requesterId
  administra : ∀ churchId, depois.Administra requesterId churchId →
    db.Administra requesterId churchId
  evento : ∀ id, db.comoAdminDeEvento requesterId id → depois.comoAdminDeEvento requesterId id

theorem MesmoPoder.refl (db : Painel) (requesterId : Id) : db.MesmoPoder db requesterId :=
  ⟨rfl, fun _ mine => mine, fun _ reached => reached⟩

theorem MesmoPoder.trans {a b c : Painel} {requesterId : Id} (first : a.MesmoPoder b requesterId)
    (second : b.MesmoPoder c requesterId) : a.MesmoPoder c requesterId :=
  ⟨second.quem.trans first.quem, fun id mine => first.administra id (second.administra id mine),
    fun id reached => second.evento id (first.evento id reached)⟩

/-- Two calls in a row, when the first one leaves the power of the requester as it was. -/
theorem NaoEscala.trans {a b c : Painel} {requesterId : Id} (first : a.NaoEscala b requesterId)
    (poder : a.MesmoPoder b requesterId) (second : b.NaoEscala c requesterId) :
    a.NaoEscala c requesterId where
  ninguemSobe id p found global :=
    first.ninguemSobe id p (second.ninguemSobe id p found global) global
  intocados id p found global := by
    obtain ⟨found, links⟩ := first.intocados id p found global
    obtain ⟨found, links'⟩ := second.intocados id p found global
    exact ⟨found, links'.trans links⟩
  vinculos v := by
    rcases first.vinculos v with same | mine
    · rcases second.vinculos v with same' | mine
      · exact .inl (same'.trans same)
      · exact .inr (poder.administra _ mine)
    · exact .inr mine
  peloEvento id p found reached := by
    obtain ⟨links, p', found, role, email, cpf⟩ := first.peloEvento id p found reached
    obtain ⟨links', p'', found, role', email', cpf'⟩ :=
      second.peloEvento id p' found (poder.evento id reached)
    exact ⟨links'.trans links, p'', found, role'.trans role, email'.trans email, cpf'.trans cpf⟩

end Painel

/-! ### One edit -/

section Edicao

variable {db depois : Painel} {id userId requesterId : Id} {data resto : UserDTO} {atual : Pessoa}
  {vinculos : Option (List VinculoDeIgreja)} {peloPerfil : Bool} {agora : Instant}

/-- The links give no global profile. -/
theorem perfilEfetivo_not_superAdmin {requester : TenantRequester}
    (below : requester.role ∉ Role.superAdminRoles) :
    perfilEfetivo (some requester) ∉ Role.superAdminRoles := by
  simp only [perfilEfetivo, below, if_false]
  split
  · decide
  · split <;> decide

theorem not_superAdmin_of_tenant (below : isSuperAdmin (db.tenant? requesterId) = false)
    (found : db.pessoa? requesterId = some atual) : atual.role ∉ Role.superAdminRoles := by
  simpa [tenant?_eq found, isSuperAdmin] using below

theorem not_dev_of_below {requester : Option TenantRequester}
    (below : isSuperAdmin requester = false) :
    isDevRole (requester.map TenantRequester.role) = false := by
  cases requester with
  | none => rfl
  | some requester =>
      simp only [isSuperAdmin, Option.any_some, decide_eq_false_iff_not, Role.superAdminRoles,
        List.mem_cons, not_or] at below
      simpa [isDevRole] using below.1

/-- What the check of the event admin lets through. -/
theorem conferirAdminDeEvento_ok (evento : db.comoAdminDeEvento requesterId id = true)
    (ok : db.conferirAdminDeEvento requesterId id data atual = .ok ()) :
    db.vinculosDe id = [] ∧ atual.role ∉ Role.superAdminRoles ∧ mudaAcesso data atual = false := by
  simp only [Painel.conferirAdminDeEvento, evento, if_true, bind_eq_ok_iff, failIf_eq_ok_iff,
    exists_const, Bool.or_eq_true, not_or, Bool.not_eq_true, Bool.not_eq_false',
    List.isEmpty_iff, decide_eq_false_iff_not] at ok
  exact ⟨ok.1.1, ok.1.2, ok.2⟩

/-- Who may be edited by a person below the super admin. -/
theorem alvo_not_superAdmin (below : isSuperAdmin (db.tenant? requesterId) = false)
    (found : db.pessoa? id = some atual)
    (restrito : db.Restrito requesterId id data atual resto vinculos) :
    atual.role ∉ Role.superAdminRoles := by
  cases restrito with
  | semPainel fora deEvento proprio dev =>
      cases evento : db.comoAdminDeEvento requesterId id with
      | true => exact (conferirAdminDeEvento_ok evento deEvento).2.1
      | false =>
          have semPainel := fora.resolve_right (by simp [evento])
          have self : requesterId = id := by simpa [evento, semPainel] using proprio
          exact not_superAdmin_of_tenant below (self ▸ found)
  | doPainel admin direto dev deIgreja perfil resolvidos =>
      simp only [Painel.conferirAdminDaIgreja, below, Bool.false_eq_true, if_false, bind_eq_ok_iff,
        failIf_eq_ok_iff, exists_const] at deIgreja
      simp only [Painel.assertDevAccountIsUntouchable, failIf_eq_ok_iff,
        not_dev_of_below below] at dev
      have apart : atual.role ≠ Role.dev := by simpa [isDevRole] using dev
      simp [Role.superAdminRoles, apart, deIgreja.1]

/-- The role that is stored before the links are looked at. -/
theorem pedido_not_superAdmin (below : isSuperAdmin (db.tenant? requesterId) = false)
    (alvo : atual.role ∉ Role.superAdminRoles)
    (restrito : db.Restrito requesterId id data atual resto vinculos) :
    resto.role.join.getD atual.role ∉ Role.superAdminRoles := by
  cases restrito with
  | semPainel => exact alvo
  | doPainel _ _ _ _ perfil _ =>
      cases asked : data.role.join with
      | none => exact alvo
      | some role =>
          have came : data.role = some (some role) := by
            rcases same : data.role with _ | _ | role' <;> simp_all
          simp only [came, Painel.conferirPerfilPedido, bind_eq_ok_iff, failIf_eq_ok_iff,
            exists_const, below, not_dev_of_below below, Bool.not_false, Bool.and_true,
            decide_eq_true_eq, Option.some.injEq] at perfil
          simp [Role.superAdminRoles, perfil.2.1, perfil.2.2]

/-- The links that an edit leaves differ in churches of the requester only. -/
theorem vinculos_not_minhas (emDia : db.EmDia)
    (below : isSuperAdmin (db.tenant? requesterId) = false)
    (restrito : db.Restrito requesterId id data atual resto vinculos) (v : VinculoDeIgreja)
    (away : v.churchId ∉ churchIdsComPerfil (db.tenant? requesterId) [Role.admin]) :
    v ∈ vinculos.getD (db.vinculosDe id) ↔ v ∈ db.vinculosDe id := by
  cases restrito with
  | semPainel => exact Iff.rfl
  | doPainel _ _ _ _ _ resolvidos =>
      cases vinculos with
      | none => exact Iff.rfl
      | some vs =>
          obtain ⟨pedidos, resolved⟩ := resolvidos vs (Option.mem_some.mpr rfl)
          exact (resolveVinculos_ok (vinculosDe_nodup emDia.perfis.umPorIgreja id)
            (fun v mem => emDia.perfis.deIgreja _ (mem_vinculosDe.mp mem)) resolved).2 below v away

/-- The row of the person is edited, and the others stay. -/
theorem pessoa?_gravarEdicao :
    (db.gravarEdicao id data vinculos agora).pessoa? userId =
      if userId = id then
        (db.pessoa? id).map fun old =>
          (db.trocarVinculos id vinculos).comPerfilEfetivo (Painel.editarPessoa data agora old)
      else db.pessoa? userId := by
  have pessoas : (db.gravarEdicao id data vinculos agora).pessoas =
      updateKey Pessoa.id id (db.trocarVinculos id vinculos).comPerfilEfetivo
        (updateKey Pessoa.id id (Painel.editarPessoa data agora) db.pessoas) := by
    cases vinculos <;> rfl
  have keep : ∀ p, ((db.trocarVinculos id vinculos).comPerfilEfetivo p).id = p.id := fun _ => rfl
  unfold Painel.pessoa?
  rw [pessoas, lookup_updateKey keep]
  simp only [lookup_updateKey (editarPessoa_id data agora)]
  split
  · simp only [if_true, Option.map_map]
    rfl
  · rfl

theorem vinculosDe_gravarEdicao (other : userId ≠ id) :
    (db.gravarEdicao id data vinculos agora).vinculosDe userId = db.vinculosDe userId := by
  have links : (db.trocarVinculos id vinculos).vinculosDe userId = db.vinculosDe userId :=
    vinculosDe_trocarVinculos other
  rw [← links]
  cases vinculos <;> rfl

theorem administra_of_minhas {churchId : Id}
    (mem : churchId ∈ churchIdsComPerfil (db.tenant? requesterId) [Role.admin]) :
    db.Administra requesterId churchId := by
  unfold Painel.tenant? at mem
  cases found : db.pessoa? requesterId with
  | none =>
      rw [found] at mem
      cases mem
  | some pessoa =>
      rw [found, Option.map_some] at mem
      obtain ⟨v, v_mem, role, rfl⟩ := mem_churchIdsComPerfil.mp mem
      obtain ⟨row, vale⟩ := mem_vinculosQueValem.mp v_mem
      exact ⟨List.mem_singleton.mp role ▸ row, vale⟩

/-- A body that changes no access leaves the e-mail and the CPF. -/
theorem editarPessoa_acesso (agora : Instant) (same : mudaAcesso data atual = false) :
    (Painel.editarPessoa data agora atual).email = atual.email ∧
      (Painel.editarPessoa data agora atual).cpf = atual.cpf := by
  simp only [mudaAcesso, Bool.or_eq_false_iff] at same
  constructor
  · change data.email.join.getD atual.email = atual.email
    rcases came : data.email with _ | _ | email <;> simp_all
  · change data.cpf.join.getD atual.cpf = atual.cpf
    rcases came : data.cpf with _ | _ | cpf <;> simp_all

theorem naoEscala_updateUser (emDia : db.EmDia)
    (below : isSuperAdmin (db.tenant? requesterId) = false)
    (ok : db.updateUser id data (some requesterId) peloPerfil agora = .ok depois) :
    db.NaoEscala depois requesterId := by
  obtain ⟨atual, resto, vinculos, found, restrito, _, rfl⟩ := updateUser_ok ok
  have alvo := alvo_not_superAdmin below found restrito
  have pedido := pedido_not_superAdmin below alvo restrito
  refine ⟨?_, ?_, ?_, ?_⟩
  · intro userId p after global
    rw [pessoa?_gravarEdicao] at after
    split at after
    · rw [found] at after
      obtain rfl := Option.some.inj after
      exact absurd global (perfilEfetivo_not_superAdmin pedido)
    · exact after
  · intro userId p before global
    have other : userId ≠ id := by
      rintro rfl
      obtain rfl := Option.some.inj (found.symm.trans before)
      exact alvo global
    rw [pessoa?_gravarEdicao, if_neg other]
    exact ⟨before, vinculosDe_gravarEdicao other⟩
  · intro v
    refine or_iff_not_imp_right.mpr fun notMine => ?_
    rw [(gravarEdicao_rest db id resto vinculos agora).1, mem_trocarVinculos]
    split
    · rename_i here
      subst here
      refine (vinculos_not_minhas emDia below restrito ⟨v.churchId, v.role⟩ fun mem => ?_).trans
        mem_vinculosDe
      exact notMine (administra_of_minhas mem)
    · exact Iff.rfl
  · intro userId p before reached
    by_cases here : userId = id
    · subst here
      obtain rfl := Option.some.inj (found.symm.trans before)
      cases restrito with
      | doPainel _ direto => simp [direto] at reached
      | semPainel _ deEvento =>
          obtain ⟨_, _, same⟩ := conferirAdminDeEvento_ok reached deEvento
          have semPermissao :
              mudaAcesso { data with role := none, churchRoles := none } atual = false := same
          refine ⟨rfl, db.comPerfilEfetivo (Painel.editarPessoa _ agora atual), ?_, ?_,
            editarPessoa_acesso agora semPermissao⟩
          · rw [pessoa?_gravarEdicao, if_pos rfl, found]
            rfl
          · -- the profile is the effective one already, and no link changes
            have certo : db.PerfilCerto atual := emDia.perfis.perfil atual (lookup_mem found)
            refine Eq.trans ?_ certo.symm
            rw [← editarPessoa_id data agora atual]
            rfl
    · refine ⟨vinculosDe_gravarEdicao here, p, ?_, rfl, rfl, rfl⟩
      rw [pessoa?_gravarEdicao, if_neg here]
      exact before

end Edicao

/-! ### The power of the requester through an edit of another person -/

section Poder

variable {db depois : Painel} {id userId requesterId : Id} {data : UserDTO}
  {vinculos : Option (List VinculoDeIgreja)} {peloPerfil : Bool} {agora : Instant}

theorem tenant?_gravarEdicao (other : requesterId ≠ id) :
    (db.gravarEdicao id data vinculos agora).tenant? requesterId = db.tenant? requesterId := by
  have links : (db.gravarEdicao id data vinculos agora).vinculosQueValem requesterId =
      db.vinculosQueValem requesterId := by
    refine vinculosQueValem_congr (vinculosDe_gravarEdicao other) fun v _ => ?_
    cases vinculos <;> rfl
  unfold Painel.tenant?
  rw [links, pessoa?_gravarEdicao, if_neg other]

/-- An edit without links leaves everyone in the scope they were in, and one with links leaves the
others there. -/
theorem pessoaDasIgrejas_gravarEdicao (same : userId = id → vinculos = none) (churchIds : List Id) :
    ((db.gravarEdicao id data vinculos agora).pessoa? userId).any
        ((db.gravarEdicao id data vinculos agora).pessoaDasIgrejas churchIds) =
      (db.pessoa? userId).any (db.pessoaDasIgrejas churchIds) := by
  have alcance : ∀ p : Pessoa, (db.gravarEdicao id data vinculos agora).vinculosDe p.id =
      db.vinculosDe p.id →
      (db.gravarEdicao id data vinculos agora).pessoaDasIgrejas churchIds p =
        db.pessoaDasIgrejas churchIds p := by
    intro p links
    unfold Painel.pessoaDasIgrejas
    rw [links]
    cases vinculos <;> rfl
  rw [pessoa?_gravarEdicao]
  by_cases here : userId = id
  · obtain rfl := same here
    subst here
    rw [if_pos rfl]
    cases found : db.pessoa? userId with
    | none => rfl
    | some old =>
        -- the churches of the person are not columns of an edit
        have igrejas : db.pessoaDasIgrejas churchIds
            (db.comPerfilEfetivo (Painel.editarPessoa data agora old)) =
              db.pessoaDasIgrejas churchIds old := by
          obtain ⟨id, member, requested⟩ := editarPessoa_keeps data agora old
          unfold Painel.pessoaDasIgrejas Painel.comPerfilEfetivo
          dsimp only
          rw [id, member, requested]
        exact igrejas
  · rw [if_neg here]
    cases found : db.pessoa? userId with
    | none => rfl
    | some p =>
        have named : p.id = userId := lookup_key found
        exact alcance p (vinculosDe_gravarEdicao (named ▸ here))

theorem comoAdminDeEvento_gravarEdicao (other : requesterId ≠ id)
    (same : userId = id → vinculos = none) :
    (db.gravarEdicao id data vinculos agora).comoAdminDeEvento requesterId userId =
      db.comoAdminDeEvento requesterId userId := by
  have eventos : (db.gravarEdicao id data vinculos agora).alcanceDoAdminDeEvento requesterId =
      db.alcanceDoAdminDeEvento requesterId := by
    cases vinculos <;> rfl
  unfold Painel.comoAdminDeEvento Painel.alcancaComoAdminDaIgreja Painel.alcancaComoAdminDeEvento
    Painel.noEscopo
  dsimp only
  rw [tenant?_gravarEdicao other, eventos]
  simp only [pessoaDasIgrejas_gravarEdicao same]

/-- The edit of another person. -/
theorem mesmoPoder_updateUser (other : requesterId ≠ id)
    (ok : db.updateUser id data (some requesterId) peloPerfil agora = .ok depois) :
    db.MesmoPoder depois requesterId := by
  obtain ⟨atual, resto, vinculos, found, restrito, _, rfl⟩ := updateUser_ok ok
  refine ⟨tenant?_gravarEdicao other, ?_, ?_⟩
  · rintro churchId ⟨row, vale⟩
    rw [(gravarEdicao_rest db id resto vinculos agora).1, mem_trocarVinculos, if_neg other] at row
    refine ⟨row, ?_⟩
    rw [← vale]
    cases vinculos <;> rfl
  · intro userId reached
    rw [comoAdminDeEvento_gravarEdicao other ?_]
    · exact reached
    · rintro rfl
      cases restrito with
      | semPainel => rfl
      | doPainel _ direto => simp [direto] at reached

theorem naoEscala_emMassa {dto : PermissoesEmMassaDto} (emDia : db.EmDia)
    (below : isSuperAdmin (db.tenant? requesterId) = false)
    (ok : db.atualizarPermissoesEmMassa requesterId dto agora = .ok depois) :
    db.NaoEscala depois requesterId := by
  simp only [Painel.atualizarPermissoesEmMassa, bind_eq_ok_iff, pure_eq_ok_iff] at ok
  obtain ⟨_, _, _, _, _, _, rfl⟩ := ok
  -- the call goes on with the power it started with
  have turns : ∀ ids : List Id, ∀ antes : Painel, antes.EmDia → db.NaoEscala antes requesterId →
      db.MesmoPoder antes requesterId →
      db.NaoEscala (ids.foldl (Painel.permissaoDeUma db requesterId dto agora)
        antes) requesterId := by
    intro ids
    induction ids with
    | nil => exact fun _ _ escala _ => escala
    | cons id ids ih =>
        intro antes emDia escala poder
        have next : (Painel.permissaoDeUma db requesterId dto agora antes id).EmDia :=
          emDia_guardado.permissaoDeUma emDia
        rcases permissaoDeUma_ends db requesterId dto agora antes id with
            same | ⟨other, data, saved⟩
        · rw [List.foldl_cons, same]
          exact ih antes emDia escala poder
        · have escala' := naoEscala_updateUser emDia (poder.quem ▸ below) saved
          exact ih _ next (escala.trans poder escala')
            (poder.trans (mesmoPoder_updateUser other saved))
  exact turns _ db emDia (.refl db requesterId) (.refl db requesterId)

end Poder

/-! ### Runs -/

namespace Painel

/-- Who asks for an edit. -/
def Acao.requester : Acao → Option Id
  | .updateUser _ _ requesterId _ => some requesterId
  | .updateMe userId _ _ => some userId
  | .atualizarPermissoesEmMassa requesterId _ _ => some requesterId
  | .createChurch _ | .updateChurch _ _ | .removeChurch _ | .createUser _ _ => none

theorem naoEscala_agir (bcrypt : Bcrypt) (db : Painel) (acao : Acao) (emDia : db.EmDia)
    (requesterId : Id) (asked : acao.requester = some requesterId)
    (below : isSuperAdmin (db.tenant? requesterId) = false) :
    db.NaoEscala (db.agir bcrypt acao) requesterId := by
  cases acao with
  | createChurch dto => cases asked
  | updateChurch id dto => cases asked
  | removeChurch id => cases asked
  | createUser data agora => cases asked
  | updateUser id data _ agora =>
      obtain rfl := Option.some.inj asked
      exact ouComoEstava_keeps (P := fun depois => db.NaoEscala depois _)
        (.refl db _) fun _ => naoEscala_updateUser emDia below
  | updateMe userId dto agora =>
      obtain rfl := Option.some.inj asked
      -- the wrong passwords counted on the way are no part of the law
      obtain ⟨erros, ⟨same, _⟩ | ⟨dados, _, _, _, saved⟩⟩ :=
        updateMe_ends db bcrypt.compara userId dto agora
      · have escala := NaoEscala.refl db userId
        change db.NaoEscala (db.updateMe bcrypt.compara userId dto agora).1 userId
        rw [same]
        exact ⟨escala.ninguemSobe, escala.intocados, escala.vinculos, escala.peloEvento⟩
      · have escala := naoEscala_updateUser (emDia_erros emDia erros) below saved
        exact ⟨escala.ninguemSobe, escala.intocados, escala.vinculos, escala.peloEvento⟩
  | atualizarPermissoesEmMassa _ dto agora =>
      obtain rfl := Option.some.inj asked
      exact ouComoEstava_keeps (P := fun depois => db.NaoEscala depois _)
        (.refl db _) fun _ => naoEscala_emMassa emDia below

end Painel

/-- In every run of operations on churches and records, an edit asked for by a person without a
global profile gives no global profile, leaves the accounts that have one, and changes links only in
churches where that person has a link of admin that holds; and whom the person reaches only through
an event keeps links, role, e-mail and CPF. -/
theorem naoEscala_run (bcrypt : Bcrypt) (db : Painel) (chaves : db.Chaves)
    (perfis : db.PerfisEmDia) (acoes : List Painel.Acao) :
    EachStep (Painel.agir bcrypt)
      (fun db acao => ∀ requesterId, acao.requester = some requesterId →
        isSuperAdmin (db.tenant? requesterId) = false →
          db.NaoEscala (db.agir bcrypt acao) requesterId) db acoes := by
  have always := always_of_step (Painel.emDia_agir bcrypt) ⟨chaves, perfis⟩ acoes
  exact always.eachStep fun db acao emDia => Painel.naoEscala_agir bcrypt db acao emDia

namespace SedeComEvento

/-- A church with its admin (7), two members (8 and 10) and an event, whose admin (9) has no link;
person 1 is super admin. -/
def painel : Painel where
  igrejas := [⟨1, "Sede", .active, none, none⟩]
  planos := []
  pessoas :=
    [⟨1, Role.superAdmin, "s@b.c", "1", "", "Sara", ⟨none, none, none⟩, none, none, none, none, []⟩,
      ⟨7, Role.admin, "a@b.c", "7", "", "Ana", ⟨none, none, none⟩, none, some 1, none, none, []⟩,
      ⟨8, Role.user, "b@b.c", "8", "", "Bia", ⟨none, none, none⟩, none, some 1, none, none, []⟩,
      ⟨9, Role.user, "c@b.c", "9", "", "Caio", ⟨none, none, none⟩, none, none, none, none, []⟩,
      ⟨10, Role.user, "d@b.c", "10", "", "Davi", ⟨none, none, none⟩, none, some 1, none, none, []⟩]
  bloqueios := []
  churchRoles := [⟨7, 1, Role.admin⟩]
  eventos := [⟨20, 1⟩]
  eventTreasurers := []
  eventAdmins := [⟨20, 9⟩]
  inscricoes := [⟨20, 8⟩, ⟨20, 10⟩]
  esperas := []
  pagamentos := []
  errosDeSenhaAtual := fun _ => none
  nextId := 100

/-- The links of a person in the church. -/
def comVinculos (roles : List Int) : UserDTO :=
  { UserDTO.vazio with churchRoles := some (some (roles.map fun role => ⟨1, role⟩)) }

def comNome : UserDTO := { UserDTO.vazio with fullName := some "Outro nome" }

def comEmail : UserDTO := { UserDTO.vazio with email := some (some "outro@b.c") }

/-- The admin of the church gives a member the treasury and takes it back; in between the admin of
the event edits her, then the e-mail of the other member, and the admin of the church the super
admin. -/
def acoes : List Painel.Acao :=
  [.updateUser 8 (comVinculos [Role.tesouraria]) 7 0, .updateUser 8 comNome 9 1,
    .updateUser 10 comEmail 9 2, .updateUser 1 comNome 7 3, .updateUser 8 (comVinculos []) 7 4]

/-- The panel after the first `n` of them. -/
def depois (n : Nat) : Painel :=
  runFrom (Painel.agir ⟨id, fun _ _ => false⟩) painel (acoes.take n)

theorem chaves : painel.Chaves :=
  ⟨⟨by decide, by decide⟩, ⟨by decide, by decide⟩, by decide⟩

theorem perfisEmDia : painel.PerfisEmDia where
  perfil := by
    unfold Painel.PerfilCerto
    decide +kernel
  umPorIgreja := by decide
  deIgreja := by decide
  lider i mem userId named := by
    obtain rfl := List.mem_singleton.mp mem
    cases named

end SedeComEvento

open SedeComEvento in
/-- The link comes and goes, and the three edits in between are refused. -/
theorem naoEscala_run_sedeComEvento :
    EachStep (Painel.agir ⟨id, fun _ _ => false⟩)
        (fun db acao => ∀ requesterId, acao.requester = some requesterId →
          isSuperAdmin (db.tenant? requesterId) = false →
            db.NaoEscala (db.agir ⟨id, fun _ _ => false⟩ acao) requesterId) painel acoes ∧
      (depois 1).churchRoles = [⟨7, 1, Role.admin⟩, ⟨8, 1, Role.tesouraria⟩] ∧
      (depois 5).churchRoles = [⟨7, 1, Role.admin⟩] ∧
      (depois 1).comoAdminDeEvento 9 8 ∧ (depois 2).comoAdminDeEvento 9 10 ∧
      (depois 1).updateUser 8 comNome (some 9) false 1 = .error naoPodeAlterar ∧
      (depois 2).updateUser 10 comEmail (some 9) false 2 =
        .error (forbidden "O e-mail e o CPF só são trocados pelo admin da igreja") ∧
      (depois 3).updateUser 1 comNome (some 7) false 3 = .error naoPodeAlterar :=
  ⟨naoEscala_run ⟨id, fun _ _ => false⟩ painel chaves perfisEmDia acoes, by decide +kernel,
    by decide +kernel, by decide +kernel, by decide +kernel, rfl, rfl, rfl⟩

end IccvBackend
