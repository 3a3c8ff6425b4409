/-
Module: IccvBackend.Proofs.BankAccounts
Purpose: When every imported movement ends in the account of its bank, with divisions saved while
  imports run.
Trusted boundary: none
Main exports: Sincronia.ContasCertas, Sincronia.Coberta, Sincronia.EscreveODeAgora, contasCertas_run
-/
import IccvBackend.Treasury.Pluggy
import IccvBackend.Proofs.CashBook

namespace IccvBackend

open Lib

namespace Sincronia

/-! ### The law -/

/-- When every call has returned, an imported movement of a bank in the list is in the account that
the division gives the bank. -/
def ContasCertas (s : Sincronia) : Prop :=
  s.TodasTerminaram → ∀ l ∈ s.db.lancamentos, l.source = .pluggy →
    ∀ atual, s.db.integracoes l.churchId = some atual →
      ∀ itemId, l.bankItemId = some itemId → itemId ∈ atual.itemIds →
        l.account = contaDoBanco atual itemId

/-- A recount of the stored division has still to write the account of the bank. -/
def Coberta (s : Sincronia) (churchId itemId : Id) : Prop :=
  ∃ (j : Nat) (dto : SavePluggyDto) (atual : PluggyIntegration) (contas : List TreasuryAccount),
    s.salvando[j]? = some ⟨churchId, dto, .recontar atual contas⟩ ∧
      s.db.integracoes churchId = some atual ∧ contaDoBanco atual itemId ∈ contas

/-- What is written agrees with the stored division, or a recount of that one is still to come.  An
insert writes by the division the import read; a recount, by the one its call stored. -/
def EscreveODeAgora (s : Sincronia) : Acao → Prop
  | .inserir k _ =>
      ∀ churchId integracao transacoes,
        s.importando[k]? = some ⟨churchId, .inserir integracao transacoes⟩ →
        ∀ atual, s.db.integracoes churchId = some atual →
          ∀ t ∈ transacoes, t.itemId ∈ atual.itemIds →
            (∀ l ∈ s.db.lancamentos, l.churchId = churchId → l.externalId ≠ some t.id) →
            contaDoBanco integracao t.itemId = contaDoBanco atual t.itemId ∨
              s.Coberta churchId t.itemId
  | .recontar k =>
      ∀ churchId dto salvo conta contas,
        s.salvando[k]? = some ⟨churchId, dto, .recontar salvo (conta :: contas)⟩ →
        ∀ atual, s.db.integracoes churchId = some atual →
          ∀ l ∈ s.db.lancamentos, l.churchId = churchId →
            ∀ itemId ∈ bancosDaConta salvo conta, l.bankItemId = some itemId →
              itemId ∈ atual.itemIds →
              contaDoBanco atual itemId = conta ∨ s.Coberta churchId itemId
  | _ => True

/-- Every movement of a bank in the list is in the account of its bank, or a recount will put it
there. -/
def EmDia (s : Sincronia) : Prop :=
  ∀ l ∈ s.db.lancamentos, ∀ atual, s.db.integracoes l.churchId = some atual →
    ∀ itemId, l.bankItemId = some itemId → itemId ∈ atual.itemIds →
      l.account = contaDoBanco atual itemId ∨ s.Coberta l.churchId itemId

/-- When every call has returned, no recount is still to come. -/
theorem EmDia.contasCertas {s : Sincronia} (inv : s.EmDia) : s.ContasCertas := by
  intro over_ l mem _ atual found itemId bank listed
  rcases inv l mem atual found itemId bank listed with right | ⟨j, dto, salvo, contas, call, _⟩
  · exact right
  · have ended := over_.1 _ (List.mem_of_getElem? call)
    cases ended

/-! ### What each step leaves -/

section Passos

variable {s s' : Sincronia} {k : Nat} {churchId : Id}

/-- The recounts in flight go on covering what they covered. -/
theorem Coberta.mono {itemId : Id} (covered : s.Coberta churchId itemId)
    (same : s'.db.integracoes churchId = s.db.integracoes churchId)
    (calls : ∀ (j : Nat) (dto : SavePluggyDto) (salvo : PluggyIntegration)
      (contas : List TreasuryAccount), s.salvando[j]? =
      some ⟨churchId, dto, .recontar salvo contas⟩ → contaDoBanco salvo itemId ∈ contas →
      s'.salvando[j]? = some ⟨churchId, dto, .recontar salvo contas⟩) :
    s'.Coberta churchId itemId := by
  obtain ⟨j, dto, atual, contas, call, stored, pending⟩ := covered
  exact ⟨j, dto, atual, contas, calls j dto atual contas call pending, same.trans stored, pending⟩

/-- A step that writes no entry and no integration. -/
theorem EmDia.of_same (inv : s.EmDia) (db : s'.db = s.db)
    (calls : ∀ (j : Nat) (c : SalvarEmCurso) (salvo : PluggyIntegration)
      (contas : List TreasuryAccount), s.salvando[j]? = some c → c.ponto = .recontar salvo contas →
      contas ≠ [] → s'.salvando[j]? = some c) : s'.EmDia := by
  intro l mem atual found itemId bank listed
  rw [db] at mem found
  refine (inv l mem atual found itemId bank listed).imp_right fun covered => ?_
  refine covered.mono (by rw [db]) fun j dto salvo contas call pending => ?_
  exact calls j _ salvo contas call rfl (List.ne_nil_of_mem pending)

/-- A call of `salvar` that was not recounting moves. -/
theorem getElem?_moverSalvar {c other : SalvarEmCurso} {ponto : PontoDeSalvar} {j : Nat}
    (here : s.salvando[k]? = some c) (call : s.salvando[j]? = some other) (apart : other ≠ c) :
    (s.moverSalvar k c ponto).salvando[j]? = some other := by
  have differs : k ≠ j := by
    rintro rfl
    rw [here] at call
    exact apart (Option.some.inj call).symm
  rw [moverSalvar, List.getElem?_set_ne differs]
  exact call

theorem emDia_lerSalvo (inv : s.EmDia) {c : SalvarEmCurso} {credenciais : Bool}
    (here : s.salvando[k]? = some c) (start : c.ponto = .ler) :
    (s.lerSalvo k c credenciais).EmDia := by
  have moved : ∀ ponto, (s.moverSalvar k c ponto).EmDia := fun ponto => by
    refine inv.of_same rfl fun j other salvo contas call recount _ => ?_
    refine getElem?_moverSalvar here call ?_
    rintro rfl
    rw [start] at recount
    cases recount
  unfold lerSalvo
  split <;> exact moved _

/-- A division stored anew is recounted, bank by bank. -/
theorem emDia_gravar (inv : s.EmDia) {dto : SavePluggyDto} {existente : Option PluggyIntegration}
    {enabled : Option Bool}
    (here : s.salvando[k]? = some ⟨churchId, dto, .gravar existente enabled⟩) :
    (s.gravar k ⟨churchId, dto, .gravar existente enabled⟩ existente enabled).EmDia := by
  intro l mem atual found itemId bank listed
  have stored : (s.gravar k ⟨churchId, dto, .gravar existente enabled⟩
      existente enabled).db.integracoes =
      Function.update s.db.integracoes churchId (some (dadosDaDivisao dto existente)) := rfl
  by_cases same : l.churchId = churchId
  · right
    rw [stored, same, Function.update_self] at found
    obtain rfl := Option.some.inj found
    refine ⟨k, dto, dadosDaDivisao dto existente, contasDaTesouraria, ?_, ?_, ?_⟩
    · rw [same]
      exact getElem?_moved_self here
    · rw [stored, same, Function.update_self]
    · cases contaDoBanco (dadosDaDivisao dto existente) itemId <;> decide
  · rw [stored, Function.update_of_ne same] at found
    refine (inv l mem atual found itemId bank listed).imp_right fun covered => ?_
    refine covered.mono (by rw [stored, Function.update_of_ne same]) ?_
    intro j dto' salvo contas call _
    refine getElem?_moverSalvar (s := { s with db := _, enabled := _ }) here call ?_
    exact fun equal => same (congrArg SalvarEmCurso.churchId equal)

theorem mem_recontarConta {lancamentos : List Lancamento} {salvo : PluggyIntegration}
    {conta : TreasuryAccount} {l : Lancamento}
    (mem : l ∈ recontarConta lancamentos churchId salvo conta) :
    ∃ antes ∈ lancamentos, l.churchId = antes.churchId ∧ l.bankItemId = antes.bankItemId ∧
      ((l.account = conta ∧ antes.churchId = churchId ∧
          ∃ itemId ∈ bancosDaConta salvo conta, antes.bankItemId = some itemId) ∨
        (l.account = antes.account ∧ ¬ (antes.churchId = churchId ∧
          ∃ itemId ∈ bancosDaConta salvo conta, antes.bankItemId = some itemId))) := by
  obtain ⟨antes, antes_mem, rfl⟩ := List.mem_map.mp mem
  refine ⟨antes, antes_mem, ?_⟩
  have banks : (antes.bankItemId.any fun itemId => itemId ∈ bancosDaConta salvo conta) = true ↔
      ∃ itemId ∈ bancosDaConta salvo conta, antes.bankItemId = some itemId := by
    cases antes.bankItemId <;> simp
  split
  · next rewritten =>
      simp only [Bool.and_eq_true, decide_eq_true_eq, banks] at rewritten
      exact ⟨rfl, rfl, .inl ⟨rfl, rewritten.1⟩⟩
  · next kept =>
      simp only [Bool.and_eq_true, decide_eq_true_eq, banks, not_and, not_not] at kept
      refine ⟨rfl, rfl, ?_⟩
      by_cases inside : antes.churchId = churchId ∧
          ∃ itemId ∈ bancosDaConta salvo conta, antes.bankItemId = some itemId
      · exact .inl ⟨kept inside, inside⟩
      · exact .inr ⟨rfl, inside⟩

/-- A recount writes what the stored division says, or what a later recount will set right. -/
theorem emDia_recontar (inv : s.EmDia) {dto : SavePluggyDto} {salvo : PluggyIntegration}
    {contas : List TreasuryAccount}
    (here : s.salvando[k]? = some ⟨churchId, dto, .recontar salvo contas⟩)
    (guard : EscreveODeAgora s (.recontar k)) :
    (s.recontar k ⟨churchId, dto, .recontar salvo contas⟩ salvo contas).EmDia := by
  unfold recontar
  cases contas with
  | nil =>
      refine inv.of_same rfl fun j other salvo' contas call recount pending => ?_
      refine getElem?_moverSalvar here call ?_
      rintro rfl
      obtain ⟨rfl, rfl⟩ := PontoDeSalvar.recontar.inj recount
      exact pending rfl
  | cons conta contas =>
      set s' : Sincronia := { s with
        db := { s.db with
          lancamentos := recontarConta s.db.lancamentos churchId salvo conta } }.moverSalvar k
          ⟨churchId, dto, .recontar salvo (conta :: contas)⟩ (.recontar salvo contas) with hs'
      intro l mem atual found itemId bank listed
      obtain ⟨antes, antes_mem, same_church, same_bank, written⟩ := mem_recontarConta mem
      have found' : s.db.integracoes antes.churchId = some atual := same_church ▸ found
      have bank' : antes.bankItemId = some itemId := same_bank.symm.trans bank
      -- a bank covered before is covered still, or was of the account just written
      have still : s.Coberta antes.churchId itemId → s'.Coberta l.churchId itemId ∨
          antes.churchId = churchId ∧ salvo = atual ∧ contaDoBanco atual itemId = conta := by
        rintro ⟨j, dto', atual', contas', call, stored, pending⟩
        obtain rfl : atual' = atual := Option.some.inj (stored.symm.trans found')
        by_cases own : j = k
        · subst own
          rw [here] at call
          obtain ⟨same_id, rfl, point⟩ := SalvarEmCurso.mk.inj (Option.some.inj call)
          obtain ⟨rfl, rfl⟩ := PontoDeSalvar.recontar.inj point
          rcases List.mem_cons.mp pending with now | later
          · exact .inr ⟨same_id.symm, rfl, now⟩
          · left
            refine ⟨j, dto, salvo, contas, ?_, same_church ▸ stored, later⟩
            rw [same_church, ← same_id]
            exact getElem?_moved_self here
        · left
          refine ⟨j, dto', atual', contas', ?_, same_church ▸ stored, pending⟩
          rw [same_church, hs', moverSalvar, List.getElem?_set_ne (Ne.symm own)]
          exact call
      rcases written with ⟨now, rfl, item, item_bank, item_eq⟩ | ⟨kept, outside⟩
      · obtain rfl : item = itemId := Option.some.inj (item_eq.symm.trans bank')
        rw [now]
        rcases guard antes.churchId dto salvo conta contas here atual found' antes antes_mem
            rfl item
          item_bank bank' listed with agrees | covered
        · exact .inl agrees.symm
        · exact (still covered).symm.imp_left fun own => own.2.2.symm
      · rw [kept]
        rcases inv antes antes_mem atual found' itemId bank' listed with right | covered
        · exact .inl right
        · rcases still covered with covered | ⟨same_id, rfl, now⟩
          · exact .inr covered
          · refine absurd ⟨same_id, itemId, ?_, bank'⟩ outside
            exact List.mem_filter.mpr ⟨listed, decide_eq_true now⟩

/-- What an import inserts: a row of a transaction that was not there. -/
theorem mem_inseridas {db : LivroCaixa} {linha : TransacaoDoBanco → Id → Lancamento}
    (church : ∀ t id, (linha t id).churchId = churchId)
    (external : ∀ t id, (linha t id).externalId = some t.id) (transacoes : List TransacaoDoBanco) :
    ∀ {atual : LivroCaixa}, (∀ l ∈ db.lancamentos, l ∈ atual.lancamentos) →
      (transacoes.foldl (fun atual t => atual.inserirNova (linha t)) atual).integracoes =
          atual.integracoes ∧
        ∀ l ∈ (transacoes.foldl (fun atual t => atual.inserirNova (linha t)) atual).lancamentos,
          l ∈ atual.lancamentos ∨ ∃ t ∈ transacoes, (∃ id, l = linha t id) ∧
            ∀ o ∈ db.lancamentos, o.churchId = churchId → o.externalId ≠ some t.id := by
  induction transacoes with
  | nil => exact fun _ => ⟨rfl, fun _ mem => .inl mem⟩
  | cons t transacoes ih =>
      intro atual there
      have first : (atual.inserirNova (linha t)).integracoes = atual.integracoes ∧
          (∀ l ∈ atual.lancamentos, l ∈ (atual.inserirNova (linha t)).lancamentos) ∧
          ∀ l ∈ (atual.inserirNova (linha t)).lancamentos,
            l ∈ atual.lancamentos ∨ (∃ id, l = linha t id) ∧
              ∀ o ∈ atual.lancamentos, o.churchId = churchId → o.externalId ≠ some t.id := by
        unfold LivroCaixa.inserirNova
        split
        · exact ⟨rfl, fun _ mem => mem, fun _ mem => .inl mem⟩
        · next absent =>
            refine ⟨rfl, fun _ mem => List.mem_append_left _ mem, fun l mem => ?_⟩
            rcases List.mem_append.mp mem with old | new
            · exact .inl old
            · refine .inr ⟨⟨atual.nextId, List.mem_singleton.mp new⟩, fun o o_mem same here =>
                absent ?_⟩
              simp only [List.any_eq_true, Bool.and_eq_true, decide_eq_true_eq]
              refine ⟨o, o_mem, ⟨?_, by simp [here]⟩, ?_⟩
              · rw [church]
                exact same
              · rw [external]
                exact here
      obtain ⟨integrations, kept, born⟩ := first
      obtain ⟨integrations', born'⟩ := ih fun l mem => kept l (there l mem)
      refine ⟨integrations'.trans integrations, fun l mem => ?_⟩
      rcases born' l mem with before | ⟨t', t'_mem, is, fresh⟩
      · rcases born l before with old | ⟨is, fresh⟩
        · exact .inl old
        · exact .inr ⟨t, List.mem_cons_self, is, fun o o_mem => fresh o (there o o_mem)⟩
      · exact .inr ⟨t', List.mem_cons_of_mem _ t'_mem, is, fresh⟩

/-- An import inserts what the stored division says, or what a recount will set right. -/
theorem emDia_inserir (inv : s.EmDia) {integracao : PluggyIntegration}
    {transacoes : List TransacaoDoBanco} {agora : Instant}
    (here : s.importando[k]? = some ⟨churchId, .inserir integracao transacoes⟩)
    (guard : EscreveODeAgora s (.inserir k agora)) :
    (s.inserir k ⟨churchId, .inserir integracao transacoes⟩ integracao transacoes agora).EmDia := by
  obtain ⟨integrations, born⟩ :=
    @mem_inseridas churchId s.db (s.db.linhaImportada churchId integracao agora) (fun _ _ => rfl)
      (fun _ _ => rfl) transacoes s.db fun _ mem => mem
  have covers : ∀ itemId church, s.Coberta church itemId →
      (s.inserir k ⟨churchId, .inserir integracao transacoes⟩ integracao transacoes agora).Coberta
        church itemId := by
    intro itemId church covered
    exact covered.mono (congrFun integrations church) fun j dto salvo contas call _ => call
  intro l mem atual found itemId bank listed
  have found' : s.db.integracoes l.churchId = some atual :=
    (congrFun integrations l.churchId).symm.trans found
  rcases born l mem with old | ⟨t, t_mem, ⟨id, rfl⟩, fresh⟩
  · exact (inv l old atual found' itemId bank listed).imp_right (covers itemId _)
  · obtain rfl : t.itemId = itemId := Option.some.inj bank
    exact (guard churchId integracao transacoes here atual found' t t_mem listed fresh).imp_right
      (covers t.itemId _)

theorem emDia_agir (s : Sincronia) (acao : Acao) (inv : s.EmDia) (guard : EscreveODeAgora s acao) :
    (s.agir acao).EmDia := by
  -- the steps of an import before its insert touch neither entries nor recounts
  have importa : ∀ k c ponto, (s.moverImportar k c ponto).EmDia := fun k c ponto =>
    inv.of_same rfl fun j c salvo contas call _ _ => call
  cases acao with
  | salvar churchId dto =>
      refine inv.of_same rfl fun j c salvo contas call _ _ => ?_
      exact (List.getElem?_append_left (List.getElem?_eq_some_iff.mp call).1).trans call
  | importar churchId => exact inv.of_same rfl fun j c salvo contas call _ _ => call
  | lerSalvo k credenciais =>
      simp only [agir]
      split
      · next here => exact emDia_lerSalvo inv here rfl
      · exact inv
  | gravar k =>
      simp only [agir]
      split
      · next here => exact emDia_gravar inv here
      · exact inv
  | recontar k =>
      simp only [agir]
      split
      · next here => exact emDia_recontar inv here guard
      · exact inv
  | lerDivisao k =>
      simp only [agir]
      split
      · unfold lerDivisao
        split <;> exact importa _ _ _
      · exact inv
  | abrir k =>
      simp only [agir]
      split
      · unfold abrir
        split
        · split <;> exact importa _ _ _
        · exact importa _ _ _
      · exact inv
  | buscar k extrato =>
      simp only [agir]
      split
      · unfold buscar
        split <;> exact importa _ _ _
      · exact inv
  | inserir k agora =>
      simp only [agir]
      split
      · next here => exact emDia_inserir inv here guard
      · exact inv

end Passos

/-! ### Runs -/

/-- From a book in order, when every write agrees with the stored division or a recount of it is
still to come: whenever all calls have returned, each imported movement of a bank in the list is in
the account of its bank. -/
theorem contasCertas_run (s : Sincronia) (inicio : s.EmDia) (acoes : List Acao)
    (guarded : EachStep agir EscreveODeAgora s acoes) : Always agir ContasCertas s acoes := by
  have kept := always_of_eachStep emDia_agir inicio guarded
  exact kept.mono fun _ inv => inv.contasCertas

end Sincronia

/-! ### A division turned on around an import -/

namespace BancoDeEventos

/-- The bank goes to the events, and the accounts are split. -/
def divisao : SavePluggyDto where
  itemIds := [9]
  splitByTreasury := some true
  itemAccounts := some fun _ => some .events
  enabled := none

/-- A church with one bank, whose accounts are not split yet. -/
def igreja : Sincronia where
  db := OfertaDoBanco.vazio
  enabled := fun _ => some true
  salvando := []
  importando := []

/-- A whole call of `salvar`, its recounts included. -/
def salva : List Sincronia.Acao :=
  [.salvar 1 divisao, .lerSalvo 0 true, .gravar 0, .recontar 0, .recontar 0, .recontar 0,
    .recontar 0]

def comecaImportar : List Sincronia.Acao := [.importar 1, .lerDivisao 0]

def terminaImportar : List Sincronia.Acao :=
  [.abrir 0, .buscar 0 (some fun _ => [OfertaDoBanco.pix]), .inserir 0 0]

end BancoDeEventos

open BancoDeEventos in
/-- The division is saved before the import reads it. -/
theorem contasCertas_run_salvaAntes :
    Always Sincronia.agir Sincronia.ContasCertas igreja
      (salva ++ (comecaImportar ++ terminaImportar)) := by
  have vazio : igreja.EmDia := by
    intro l mem
    cases mem
  refine Sincronia.contasCertas_run igreja vazio _ ⟨trivial, trivial, trivial, ?_, ?_, ?_, ?_,
    trivial, trivial, trivial, trivial, ?_, trivial⟩
  iterate 4
    intro _ _ _ _ _ _ _ _ l mem
    cases mem
  · intro churchId integracao transacoes here atual found t _ _ _
    cases here
    cases found
    exact .inl rfl

open BancoDeEventos in
/-- The import has read the division when the new one is saved, and inserts when its recounts are
over. -/
theorem not_contasCertas_salvaNoMeio :
    ¬ Always Sincronia.agir Sincronia.ContasCertas igreja
      (comecaImportar ++ (salva ++ terminaImportar)) := by
  intro always
  have law : Sincronia.ContasCertas (runFrom Sincronia.agir igreja
    (comecaImportar ++ (salva ++ terminaImportar))) := always.last
  have terminaram : (runFrom Sincronia.agir igreja
      (comecaImportar ++ (salva ++ terminaImportar))).TodasTerminaram := by
    constructor <;> intro c mem <;> cases List.mem_singleton.mp mem <;> rfl
  have account := law terminaram _ (List.mem_singleton_self _) rfl _ rfl 9 rfl (by decide)
  cases account

end IccvBackend
