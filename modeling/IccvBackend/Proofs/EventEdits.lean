/-
Module: IccvBackend.Proofs.EventEdits
Purpose: What the final transaction of an event edit deletes, and when it deletes no registration,
  payment or item.
Trusted boundary: none
Main exports: OperacaoDeEdicao.remove, gravarEdicao_ok, NadaApagado, Edicoes.RemoveVazios,
  Edicoes.nadaApagado_run_iff
-/
import IccvBackend.Event.Edit
import IccvBackend.Proofs.Seats

namespace IccvBackend

open Lib

/-- The operation deletes the role: by itself, or with its group. -/
def OperacaoDeEdicao.remove (cat : Catalogue) (roleId : Id) : OperacaoDeEdicao → Bool
  | .deleteRole id => id = roleId
  | .deleteGroup id => cat.roleInGroup id roleId
  | _ => false

/-- A write that deletes the roles `sai` and what hangs on them, and moves no other role. -/
structure Apagou (db depois : Database) (sai : Id → Bool) : Prop where
  inscricoes : depois.inscricoes = db.inscricoes.filter fun i => !sai i.roleRegistrationId
  payments : depois.payments = db.payments.filter fun p =>
    !p.inscricao.any fun i => sai i.roleRegistrationId && db.inscricoes.contains i
  grupos : ∀ i ∈ depois.inscricoes, ∀ groupId,
    depois.catalogue.roleInGroup groupId i.roleRegistrationId =
      db.catalogue.roleInGroup groupId i.roleRegistrationId

/-! ### The rows an operation leaves -/

theorem roleInGroup_eq (cat : Catalogue) (groupId roleId : Id) :
    cat.roleInGroup groupId roleId =
      cat.groups.any fun group => group.id = groupId && group.roles.any fun role =>
        role.id = roleId := by
  rw [Bool.eq_iff_iff]
  simp only [Catalogue.roleInGroup, Catalogue.roles, List.any_eq_true, List.mem_flatMap,
    List.mem_map, Bool.and_eq_true, decide_eq_true_eq]
  constructor
  · rintro ⟨_, ⟨group, mem, role, role_mem, rfl⟩, same_role, same_group⟩
    exact ⟨group, mem, same_group, role, role_mem, same_role⟩
  · rintro ⟨group, mem, same_group, role, role_mem, same_role⟩
    exact ⟨_, ⟨group, mem, role, role_mem, rfl⟩, same_role, same_group⟩

/-- Groups rewritten one by one, with the same ids and with or without the role as before. -/
theorem roleInGroup_map {cat cat' : Catalogue} {h : GroupRoles → GroupRoles} {roleId : Id}
    (groups : cat'.groups = cat.groups.map h) (same_id : ∀ group, (h group).id = group.id)
    (same_role : ∀ group, ((h group).roles.any fun role => role.id = roleId) =
      group.roles.any fun role => role.id = roleId) (groupId : Id) :
    cat'.roleInGroup groupId roleId = cat.roleInGroup groupId roleId := by
  simp only [roleInGroup_eq, groups, List.any_map, Function.comp_def, same_id, same_role]

/-- Without one group, a role that was not in it is in the groups it was in. -/
theorem roleInGroup_of_semGrupo {cat cat' : Catalogue} {id roleId : Id}
    (groups : cat'.groups = cat.groups.filter fun group => group.id ≠ id)
    (outside : cat.roleInGroup id roleId = false) (groupId : Id) :
    cat'.roleInGroup groupId roleId = cat.roleInGroup groupId roleId := by
  rw [roleInGroup_eq] at outside ⊢
  rw [roleInGroup_eq, groups, List.any_filter]
  apply Bool.eq_iff_iff.mpr
  simp only [List.any_eq_true, Bool.and_eq_true, decide_eq_true_eq, ne_eq]
  constructor
  · rintro ⟨group, group_mem, _, both⟩
    exact ⟨group, group_mem, both⟩
  · rintro ⟨group, group_mem, both⟩
    refine ⟨group, group_mem, ?_, both⟩
    rintro rfl
    have gone := List.any_eq_false.mp outside group group_mem
    simp [both.2] at gone

theorem comGrupos_ok {cat cat' : Catalogue} {groups : List GroupRoles}
    (ok : cat.comGrupos groups = .ok cat') : cat'.groups = groups := by
  unfold Catalogue.comGrupos at ok
  split at ok
  · obtain rfl := pure_eq_ok_iff.mp ok
    rfl
  · cases ok

theorem comProdutos_ok {cat cat' : Catalogue} {products : List EventProduct}
    (ok : cat.comProdutos products = .ok cat') : cat'.groups = cat.groups := by
  unfold Catalogue.comProdutos at ok
  split at ok
  · obtain rfl := pure_eq_ok_iff.mp ok
    rfl
  · cases ok

section Linhas

variable {db depois : Database}

theorem cascataDeRoles_inscricoes (sai : Id → Bool) :
    (db.cascataDeRoles sai).inscricoes =
      db.inscricoes.filter fun i => !sai i.roleRegistrationId := by
  unfold Database.inscricoes Database.cascataDeRoles
  rw [List.filter_flatMap, List.flatMap_map]
  congr 1
  funext row
  simp [EventOnUsers.inscricoes, List.filter_map, Function.comp_def]

/-- A write that changes nothing but the catalogue, and there no group. -/
theorem apagou_of_catalogue {catalogue : Catalogue}
    (grupos : ∀ i ∈ db.inscricoes, ∀ groupId,
      catalogue.roleInGroup groupId i.roleRegistrationId =
        db.catalogue.roleInGroup groupId i.roleRegistrationId) :
    Apagou db { db with catalogue := catalogue } fun _ => false where
  inscricoes := by
    have rows : ({ db with catalogue := catalogue } : Database).inscricoes = db.inscricoes := rfl
    simp [rows]
  payments := by
    refine (List.filter_eq_self.mpr fun p _ => ?_).symm
    cases p.inscricao <;> simp
  grupos := grupos

/-- A cascade, with a catalogue where the roles that stay are in the groups they were in. -/
theorem apagou_of_cascata {catalogue : Catalogue} {sai : Id → Bool}
    (grupos : ∀ i : Inscricao, sai i.roleRegistrationId = false → ∀ groupId,
      catalogue.roleInGroup groupId i.roleRegistrationId =
        db.catalogue.roleInGroup groupId i.roleRegistrationId) :
    Apagou db { db.cascataDeRoles sai with catalogue := catalogue } sai where
  inscricoes := cascataDeRoles_inscricoes sai
  payments := rfl
  grupos := by
    intro i mem
    have still : i ∈ (db.cascataDeRoles sai).inscricoes := mem
    rw [cascataDeRoles_inscricoes] at still
    exact grupos i (by simpa using (List.mem_filter.mp still).2)

theorem roleInGroup_congr {cat cat' : Catalogue} (same : cat'.groups = cat.groups)
    (groupId roleId : Id) : cat'.roleInGroup groupId roleId = cat.roleInGroup groupId roleId := by
  simp only [roleInGroup_eq, same]

theorem modifyProduct_ok {productId : Id} {f : EventProduct → EventProduct}
    (ok : db.modifyProduct productId f = .ok depois) : Apagou db depois fun _ => false := by
  unfold Database.modifyProduct at ok
  simp only [bind_eq_ok_iff, pure_eq_ok_iff] at ok
  obtain ⟨_, _, catalogue, made, rfl⟩ := ok
  exact apagou_of_catalogue fun i _ groupId => roleInGroup_congr (comProdutos_ok made) _ _

theorem modifyVariants_ok {variantId : Id} {f : List EventProductVariant → List EventProductVariant}
    (ok : db.modifyVariants variantId f = .ok depois) : Apagou db depois fun _ => false := by
  unfold Database.modifyVariants at ok
  simp only [bind_eq_ok_iff, pure_eq_ok_iff] at ok
  obtain ⟨_, _, catalogue, made, rfl⟩ := ok
  exact apagou_of_catalogue fun i _ groupId => roleInGroup_congr (comProdutos_ok made) _ _

theorem modifyGroup_ok {groupId : Id} {f : GroupRoles → GroupRoles}
    (same_id : ∀ group, (f group).id = group.id)
    (same_role : ∀ i ∈ db.inscricoes, ∀ group,
      ((f group).roles.any fun role => role.id = i.roleRegistrationId) =
        group.roles.any fun role => role.id = i.roleRegistrationId)
    (ok : db.modifyGroup groupId f = .ok depois) : Apagou db depois fun _ => false := by
  unfold Database.modifyGroup at ok
  simp only [bind_eq_ok_iff, pure_eq_ok_iff] at ok
  obtain ⟨_, _, catalogue, made, rfl⟩ := ok
  apply apagou_of_catalogue
  intro i mem
  apply roleInGroup_map (comGrupos_ok made)
  · intro group
    split <;> simp [same_id]
  · intro group
    split
    · exact same_role i mem group
    · rfl

/-- The catalogue after the roles of all groups are rewritten. -/
theorem modifyRoles_catalogue {roleId : Id} {f : List RolesRegistration → List RolesRegistration}
    (ok : db.modifyRoles roleId f = .ok depois) :
    depois = { db with catalogue := depois.catalogue } ∧
      depois.catalogue.groups = db.catalogue.groups.map fun group => group.comRoles f := by
  unfold Database.modifyRoles at ok
  simp only [bind_eq_ok_iff, pure_eq_ok_iff] at ok
  obtain ⟨_, _, catalogue, made, rfl⟩ := ok
  exact ⟨rfl, comGrupos_ok made⟩

/-- One operation deletes the roles it names, and nothing else. -/
theorem aplicar_ok {op : OperacaoDeEdicao} (ok : db.aplicar op = .ok depois) :
    Apagou db depois fun roleId => op.remove db.catalogue roleId := by
  cases op with
  | deleteGroup id =>
      simp only [Database.aplicar, bind_eq_ok_iff, pure_eq_ok_iff] at ok
      obtain ⟨_, _, catalogue, made, rfl⟩ := ok
      apply apagou_of_cascata
      intro i stays groupId
      exact roleInGroup_of_semGrupo (comGrupos_ok made) stays groupId
  | updateGroup id name capacity janela =>
      exact modifyGroup_ok (f := GroupRoles.gravar name capacity janela) (fun _ => rfl)
        (fun _ _ _ => rfl) ok
  | deleteRole id =>
      simp only [Database.aplicar, bind_eq_ok_iff, pure_eq_ok_iff] at ok
      obtain ⟨rewritten, made, rfl⟩ := ok
      have gone : ∀ roleId, (decide (id = roleId)) = decide (roleId = id) := by
        intro roleId
        simp [eq_comm]
      simp only [OperacaoDeEdicao.remove, gone]
      apply apagou_of_cascata
      intro i stays groupId
      have other : i.roleRegistrationId ≠ id := of_decide_eq_false stays
      apply roleInGroup_map (modifyRoles_catalogue made).2 fun _ => rfl
      intro group
      simp only [GroupRoles.comRoles, List.any_filter]
      congr 1
      funext role
      by_cases same : role.id = i.roleRegistrationId
      · simp [same, other]
      · simp [same]
  | updateRole id description price =>
      obtain ⟨rewritten, groups⟩ := modifyRoles_catalogue ok
      rw [rewritten]
      apply apagou_of_catalogue
      intro i _
      apply roleInGroup_map groups fun _ => rfl
      intro group
      simp only [GroupRoles.comRoles, List.any_map, Function.comp_def]
      congr 1
      funext role
      split <;> rfl
  | createRole uuid groupId description price =>
      simp only [Database.aplicar, bind_eq_ok_iff, failIf_eq_ok_iff] at ok
      obtain ⟨_, unused, ok⟩ := ok
      refine modifyGroup_ok ?same_id ?same_role ok
      case same_id => exact fun _ => rfl
      case same_role =>
        intro i mem group
        have other : uuid ≠ i.roleRegistrationId := by
          rintro rfl
          exact unused (List.any_eq_true.mpr ⟨i, mem, decide_eq_true rfl⟩)
        simp [GroupRoles.comRoles, other]
  | deleteProduct id =>
      simp only [Database.aplicar, bind_eq_ok_iff, pure_eq_ok_iff] at ok
      obtain ⟨catalogue, made, _, _, _, _, rfl⟩ := ok
      exact apagou_of_catalogue fun i _ groupId => roleInGroup_congr (comProdutos_ok made) _ _
  | createProduct eventId produto images =>
      simp only [Database.aplicar] at ok
      split at ok
      · simp only [bind_eq_ok_iff, pure_eq_ok_iff] at ok
        obtain ⟨catalogue, made, rfl⟩ := ok
        exact apagou_of_catalogue fun i _ groupId => roleInGroup_congr (comProdutos_ok made) _ _
      · exact nomatch ok
  | updateProduct id produto images =>
      simp only [Database.aplicar] at ok
      split at ok
      · exact modifyProduct_ok ok
      · exact nomatch ok
  | deleteVariant id =>
      simp only [Database.aplicar, bind_eq_ok_iff] at ok
      obtain ⟨_, _, ok⟩ := ok
      exact modifyVariants_ok ok
  | createVariant productId variante => exact modifyProduct_ok ok
  | updateVariant variante =>
      simp only [Database.aplicar, bind_eq_ok_iff] at ok
      obtain ⟨_, _, ok⟩ := ok
      exact modifyVariants_ok ok

end Linhas

/-! ### The whole transaction -/

/-- The edit deletes the role, as the catalogue stands before its transaction. -/
def removidas (cat : Catalogue) (ops : List OperacaoDeEdicao) (roleId : Id) : Bool :=
  ops.any fun op => op.remove cat roleId

/-- A role held after some operations is removed by the next one exactly when it is in the
catalogue before them all. -/
theorem Apagou.remove_eq {db meio : Database} {sai : Id → Bool} (apagou : Apagou db meio sai)
    (op : OperacaoDeEdicao) {i : Inscricao} (mem : i ∈ meio.inscricoes) :
    op.remove meio.catalogue i.roleRegistrationId =
      op.remove db.catalogue i.roleRegistrationId := by
  cases op with
  | deleteGroup id => exact apagou.grupos i mem id
  | deleteRole id => rfl
  | updateGroup | updateRole | createRole | deleteProduct | createProduct | updateProduct
  | deleteVariant | createVariant | updateVariant => rfl

theorem Apagou.trans {db meio depois : Database} {sai sai' : Id → Bool}
    (first : Apagou db meio sai) (second : Apagou meio depois sai') :
    Apagou db depois fun roleId => sai roleId || sai' roleId where
  inscricoes := by
    rw [second.inscricoes, first.inscricoes, List.filter_filter]
    congr 1
    funext i
    rw [Bool.not_or, Bool.and_comm]
  payments := by
    rw [second.payments, first.payments, List.filter_filter]
    congr 1
    funext p
    cases p.inscricao with
    | none => rfl
    | some i =>
        have kept : meio.inscricoes.contains i =
            (db.inscricoes.contains i && !sai i.roleRegistrationId) := by
          rw [Bool.eq_iff_iff, first.inscricoes]
          simp
        simp only [Option.any_some, kept]
        cases sai i.roleRegistrationId <;> cases sai' i.roleRegistrationId <;>
          cases db.inscricoes.contains i <;> rfl
  grupos := by
    intro i mem groupId
    have there : i ∈ meio.inscricoes := by
      rw [second.inscricoes] at mem
      exact (List.mem_filter.mp mem).1
    rw [second.grupos i mem groupId, first.grupos i there groupId]

/-- The same deletion, with the roles named as they were before. -/
theorem Apagou.congr {db depois : Database} {sai sai' : Id → Bool} (apagou : Apagou db depois sai)
    (same : ∀ i ∈ db.inscricoes, sai i.roleRegistrationId = sai' i.roleRegistrationId) :
    Apagou db depois sai' where
  inscricoes := by
    rw [apagou.inscricoes]
    apply List.filter_congr
    intro i mem
    rw [same i mem]
  payments := by
    rw [apagou.payments]
    apply List.filter_congr
    intro p _
    cases p.inscricao with
    | none => rfl
    | some i =>
        by_cases mem : i ∈ db.inscricoes
        · simp [same i mem]
        · simp [mem]
  grupos := apagou.grupos

/-- A committed edit deletes the roles it names, their role registrations and the payments of
these. -/
theorem gravarEdicao_ok {db depois : Database} {ops : List OperacaoDeEdicao}
    (ok : db.gravarEdicao ops = .ok depois) : Apagou db depois (removidas db.catalogue ops) := by
  apply foldlM_eq_ok_invariant
    (fun done meio => Apagou db meio (removidas db.catalogue done)) _ _ ok
  · exact apagou_of_catalogue fun _ _ _ => rfl
  · intro done op meio depois' _ apagou turn
    have both := apagou.trans (aplicar_ok turn)
    apply both.congr
    intro i mem
    simp only [removidas, List.any_append, List.any_cons, List.any_nil, Bool.or_false]
    by_cases gone : done.any fun op => op.remove db.catalogue i.roleRegistrationId
    · simp [gone]
    · have still : i ∈ meio.inscricoes := by
        rw [apagou.inscricoes]
        exact List.mem_filter.mpr ⟨mem, by simpa [removidas] using gone⟩
      rw [apagou.remove_eq op still]

/-! ### Nothing is deleted -/

/-- Every registration, payment and purchased item there was is still there. -/
structure NadaApagado (antes depois : Database) : Prop where
  inscricoes : ∀ i ∈ antes.inscricoes, i ∈ depois.inscricoes
  payments : ∀ p ∈ antes.payments, ∃ q ∈ depois.payments, q.id = p.id
  itens : ∀ item ∈ antes.payments.flatMap Payment.productItems,
    ∃ other ∈ depois.payments.flatMap Payment.productItems, other.id = item.id

theorem Apagou.nadaApagado_iff {db depois : Database} {sai : Id → Bool}
    (apagou : Apagou db depois sai) :
    NadaApagado db depois ↔ ∀ i ∈ db.inscricoes, sai i.roleRegistrationId = false := by
  constructor
  · intro nada i mem
    have still := nada.inscricoes i mem
    rw [apagou.inscricoes] at still
    simpa using (List.mem_filter.mp still).2
  · intro vazios
    have inscricoes : depois.inscricoes = db.inscricoes := by
      rw [apagou.inscricoes]
      exact List.filter_eq_self.mpr fun i mem => by simp [vazios i mem]
    have payments : depois.payments = db.payments := by
      rw [apagou.payments]
      apply List.filter_eq_self.mpr
      intro p _
      cases p.inscricao with
      | none => rfl
      | some i =>
          by_cases mem : i ∈ db.inscricoes
          · simp [vazios i mem]
          · simp [mem]
    refine ⟨fun i mem => inscricoes ▸ mem, fun p mem => ⟨p, payments ▸ mem, rfl⟩, ?_⟩
    intro item mem
    exact ⟨item, payments ▸ mem, rfl⟩

namespace Edicoes

/-- A step that commits an edit deletes nothing. -/
def NadaApaga (amb : Ambiente) (s : Edicoes) : Acao → Prop
  | .gravar edicao => NadaApagado s.db (step amb s (.gravar edicao)).db
  | _ => True

/-- When an edit commits, the groups and roles it removes have no registration at that moment. -/
def RemoveVazios (s : Edicoes) : Acao → Prop
  | .gravar edicao => ∀ ops, s.aGravar edicao = some ops → (s.db.gravarEdicao ops).isOk →
      ∀ i ∈ s.db.inscricoes, removidas s.db.catalogue ops i.roleRegistrationId = false
  | _ => True

theorem nadaApagado_refl (db : Database) : NadaApagado db db :=
  ⟨fun _ mem => mem, fun p mem => ⟨p, mem, rfl⟩, fun item mem => ⟨item, mem, rfl⟩⟩

theorem nadaApaga_iff (amb : Ambiente) (s : Edicoes) (acao : Acao) :
    NadaApaga amb s acao ↔ RemoveVazios s acao := by
  cases acao with
  | gravar edicao =>
      simp only [NadaApaga, RemoveVazios, step]
      cases pronta : s.aGravar edicao with
      | none => simp [nadaApagado_refl]
      | some ops =>
          cases gravada : s.db.gravarEdicao ops with
          | error e => simp [gravada, Except.isOk, Except.toBool, encerrar, nadaApagado_refl]
          | ok db =>
              have vazios := (gravarEdicao_ok gravada).nadaApagado_iff
              simpa [gravada, Except.isOk, Except.toBool, encerrar] using vazios
  | iniciar | montar | lerProdutos | desistir | inscricao | comprar => exact Iff.rfl

/-- No committed edit of a run deletes a registration, a payment or an item exactly when each of
them removes only what is empty at its transaction. -/
theorem nadaApagado_run_iff (amb : Ambiente) (s : Edicoes) (acoes : List Acao) :
    EachStep (step amb) (NadaApaga amb) s acoes ↔ EachStep (step amb) RemoveVazios s acoes :=
  ⟨EachStep.mono fun s acao => (nadaApaga_iff amb s acao).mp,
    EachStep.mono fun s acao => (nadaApaga_iff amb s acao).mpr⟩

/-! ### A registration in the middle -/

def ambiente : Ambiente where
  quando := UmaVaga.quando
  textos := ⟨id, id⟩

/-- The form without the group of the event, which gets another. -/
def outroGrupo : EventDto where
  groupRoles :=
    [{ id := none, name := "Jovens", capacity := 10, active := none, opensAt := none
       closesAt := none, roles := [⟨none, 80, "Inteira", 21⟩], uuid := 20 }]
  products := none

/-- The edit reads the group empty, a person registers in it, and the edit commits. -/
def inscricaoNoMeio : List Acao :=
  [.iniciar 5 outroGrupo, .inscricao (UmaVaga.inscrever 1 7), .montar 0, .lerProdutos 0, .gravar 0]

/-- The registration is deleted, and its payment with it. -/
theorem not_nadaApaga_inscricaoNoMeio :
    ¬ EachStep (step ambiente) (NadaApaga ambiente) ⟨UmaVaga.vazio, []⟩ inscricaoNoMeio := by
  rintro ⟨_, _, _, _, nada, _⟩
  have inside : (⟨1, 5, 7⟩ : Inscricao) ∈ (runFrom (step ambiente) ⟨UmaVaga.vazio, []⟩
      (inscricaoNoMeio.take 4)).db.inscricoes := by
    decide +kernel
  have gone : (⟨1, 5, 7⟩ : Inscricao) ∉ (runFrom (step ambiente) ⟨UmaVaga.vazio, []⟩
      inscricaoNoMeio).db.inscricoes := by
    decide +kernel
  exact gone (nada.inscricoes _ inside)

end Edicoes

end IccvBackend
