/-
Module: IccvBackend.Proofs.Books
Purpose: When a bank movement is in one book only: reconciled by the Administrativa, or allocated to
  a treasury.
Trusted boundary: none
Main exports: Livros.UmLivroSo, RespeitaOOutroLivro, umLivroSo_run_iff, not_umLivroSo_distribuida
-/
import IccvBackend.Proofs.CashBook

namespace IccvBackend

open Lib

namespace Livros

/-- No movement reconciled with a manual entry has an allocation. -/
def UmLivroSo (s : Livros) : Prop :=
  ∀ m ∈ s.caixa.lancamentos, ∀ b, m.reconciledWithId = some b →
    ∀ a ∈ s.caixa.alocacoes, a.entryId ≠ b

/-- Some manual entry is reconciled with the movement. -/
def Conciliado (s : Livros) (movimentoId : Id) : Prop :=
  ∃ m ∈ s.caixa.lancamentos, m.reconciledWithId = some movimentoId

end Livros

/-- What the two books leave to each other: of the operations that go through, the Administrativa
reconciles no movement with an allocation, and a treasury takes no reconciled movement. -/
def RespeitaOOutroLivro (brl : Int → String) (s : Livros) : Livros.Acao → Prop
  | .conciliar churchId bancoId manualId =>
      (s.caixa.conciliar churchId bancoId manualId).isOk →
        ∀ a ∈ s.caixa.alocacoes, a.entryId ≠ bancoId
  | .distribuir id partes =>
      (s.vistaDasTesourarias.distribuir id partes).isOk →
        ∀ parte ∈ partes, ¬ s.Conciliado parte.movimentoId
  | .conciliarNaTesouraria id movimentoId lancamentoIds =>
      (s.vistaDasTesourarias.conciliar brl id movimentoId lancamentoIds).isOk →
        ¬ s.Conciliado movimentoId
  | _ => True

/-! ### The movements with an allocation -/

section Alocados

variable {db depois : Tesourarias} {k : Id}

/-- The movement has an allocation. -/
def Tesourarias.Alocado (db : Tesourarias) (movimentoId : Id) : Prop :=
  ∃ a ∈ db.alocacoes, a.entryId = movimentoId

theorem alocado_criarAlocacao (treasuryId entryId : Id) (amount : Int) (category : Option String) :
    (db.criarAlocacao treasuryId entryId amount category).Alocado k ↔ db.Alocado k ∨
    entryId = k := by
  simp only [Tesourarias.Alocado, Tesourarias.criarAlocacao, List.mem_append, List.mem_singleton,
    or_and_right, exists_or, exists_eq_left]

theorem alocado_somarAlocacao (treasuryId entryId : Id) (amount : Int) (category : Option String) :
    (db.somarAlocacao treasuryId entryId amount category).Alocado k ↔ db.Alocado k ∨
    entryId = k := by
  unfold Tesourarias.somarAlocacao
  split
  · rename_i found
    have named := List.find?_some found
    have mem := List.mem_of_find?_eq_some found
    simp only [Bool.and_eq_true, decide_eq_true_eq] at named
    have same : ∀ a : TreasuryAllocation,
        (if a.treasuryId = treasuryId && a.entryId = entryId then
          { a with amount := a.amount + amount } else a).entryId = a.entryId := by
      intro a
      split <;> rfl
    constructor
    · rintro ⟨a, mem_a, rfl⟩
      obtain ⟨old, old_mem, rfl⟩ := List.mem_map.mp mem_a
      exact .inl ⟨old, old_mem, (same old).symm⟩
    · rintro (⟨a, mem_a, rfl⟩ | rfl)
      · exact ⟨_, List.mem_map_of_mem mem_a, same a⟩
      · exact ⟨_, List.mem_map_of_mem mem, (same _).trans named.2⟩
  · exact alocado_criarAlocacao treasuryId entryId amount category

/-- Distributing allocates the movements of its parts. -/
theorem alocado_distribuir {id : Id} {partes : List Parte}
    (ok : db.distribuir id partes = .ok depois) :
    depois.Alocado k ↔ db.Alocado k ∨ ∃ parte ∈ partes, parte.movimentoId = k := by
  unfold Tesourarias.distribuir at ok
  simp only [bind_eq_ok_iff] at ok
  obtain ⟨t, _, ok⟩ := ok
  refine foldlM_eq_ok_invariant
    (fun feitas atual => atual.Alocado k ↔ db.Alocado k ∨ ∃ parte ∈ feitas, parte.movimentoId = k)
    (by simp) ?_ ok
  intro feitas parte atual proximo _ inv turn
  unfold Tesourarias.distribuirParte at turn
  simp only [bind_eq_ok_iff, pure_eq_ok_iff] at turn
  obtain ⟨restante, _, valor, _, rfl⟩ := turn
  rw [alocado_somarAlocacao, inv]
  simp only [List.mem_append, List.mem_singleton, or_and_right, exists_or, exists_eq_left, or_assoc]

theorem upsertLink_alocacoes (paymentId treasuryId : Id)
    (f : TreasuryPaymentLink → TreasuryPaymentLink) :
    (db.upsertLink paymentId treasuryId f).alocacoes = db.alocacoes := by
  unfold Tesourarias.upsertLink
  split <;> rfl

/-- Reconciling in a treasury leaves the movement allocated. -/
theorem alocado_gravarConciliacao (id movimentoId : Id) (doBanco : Int) (categoria : String)
    (lancamentoIds : List LancamentoId) :
    (db.gravarConciliacao id movimentoId doBanco categoria lancamentoIds).Alocado k ↔
      db.Alocado k ∨ movimentoId = k := by
  unfold Tesourarias.gravarConciliacao
  have links : ∀ (pagamentos : List Id) (atual : Tesourarias),
      (pagamentos.foldl (fun db paymentId =>
        db.upsertLink paymentId id (.conciliarCom movimentoId)) atual).alocacoes =
        atual.alocacoes := by
    intro pagamentos
    induction pagamentos with
    | nil => exact fun _ => rfl
    | cons p pagamentos ih => exact fun atual => (ih _).trans (upsertLink_alocacoes p id _)
  simp only [Tesourarias.Alocado, Tesourarias.modifyEntries, links]
  split
  · rename_i found
    have named := List.find?_some found
    have mem := List.mem_of_find?_eq_some found
    simp only [Bool.and_eq_true, decide_eq_true_eq] at named
    exact ⟨.inl, fun alocado => alocado.elim (fun old => old) fun same =>
      ⟨_, mem, named.2.trans same⟩⟩
  · exact alocado_criarAlocacao id movimentoId doBanco (some categoria)

theorem alocado_conciliar {brl : Int → String} {id movimentoId : Id}
    {lancamentoIds : List LancamentoId}
    (ok : db.conciliar brl id movimentoId lancamentoIds = .ok depois) :
    depois.Alocado k ↔ db.Alocado k ∨ movimentoId = k := by
  unfold Tesourarias.conciliar at ok
  simp only [bind_eq_ok_iff, pure_eq_ok_iff] at ok
  obtain ⟨_, _, _, _, _, _, _, _, _, _, _, _, doBanco, _, _, _, rfl⟩ := ok
  exact alocado_gravarConciliacao id movimentoId doBanco _ lancamentoIds

/-- Giving back only takes allocations away. -/
theorem alocado_soltar {id movimentoId alocacaoId : Id}
    (alocado : (db.soltar id movimentoId alocacaoId).Alocado k) : db.Alocado k := by
  obtain ⟨a, mem, named⟩ := alocado
  exact ⟨a, (List.mem_filter.mp mem).1, named⟩

theorem alocado_devolver {id alocacaoId : Id} (ok : db.devolver id alocacaoId = .ok depois)
    (alocado : depois.Alocado k) : db.Alocado k := by
  unfold Tesourarias.devolver at ok
  simp only [bind_eq_ok_iff, pure_eq_ok_iff] at ok
  obtain ⟨_, _, a, _, rfl⟩ := ok
  exact alocado_soltar alocado

theorem alocado_desfazer {id movimentoId : Id} (ok : db.desfazer id movimentoId = .ok depois)
    (alocado : depois.Alocado k) : db.Alocado k := by
  unfold Tesourarias.desfazer at ok
  simp only [bind_eq_ok_iff, pure_eq_ok_iff] at ok
  obtain ⟨_, _, a, _, rfl⟩ := ok
  exact alocado_soltar alocado

end Alocados

/-! ### The two books -/

section Livros

variable {s : Livros} {brl : Int → String}

theorem umLivroSo_iff :
    s.UmLivroSo ↔ ∀ k, s.Conciliado k → ¬ s.vistaDasTesourarias.Alocado k := by
  constructor
  · rintro law k ⟨m, mem, aponta⟩ ⟨a, mem_a, named⟩
    exact law m mem k aponta a mem_a named
  · exact fun law m mem b aponta a mem_a named => law b ⟨m, mem, aponta⟩ ⟨a, mem_a, named⟩

/-- The reconciled movements after a reconciliation of the Administrativa. -/
theorem conciliado_conciliar (emOrdem : s.caixa.EmOrdem) {churchId bancoId manualId k : Id}
    {depois : LivroCaixa} (ok : s.caixa.conciliar churchId bancoId manualId = .ok depois) :
    Livros.Conciliado { s with caixa := depois } k ↔ s.Conciliado k ∨ bancoId = k := by
  obtain ⟨b, m, done⟩ := conciliou_of_ok ok
  obtain ⟨mem, named, _⟩ := done.manual
  have rows : depois.lancamentos.map Lancamento.reconciledWithId =
      (updateKey Lancamento.id manualId
        (fun l => { l with reconciledWithId := some bancoId, notInBankAt := none })
        s.caixa.lancamentos).map Lancamento.reconciledWithId := by
    rw [done.escrito]
    exact map_updateKey fun _ _ _ => rfl
  have points : Livros.Conciliado { s with caixa := depois } k ↔
      ∃ l ∈ updateKey Lancamento.id manualId
        (fun l => { l with reconciledWithId := some bancoId, notInBankAt := none })
        s.caixa.lancamentos, l.reconciledWithId = some k := by
    unfold Livros.Conciliado
    rw [← List.mem_map, rows, List.mem_map]
  rw [points]
  constructor
  · rintro ⟨l, mem_l, aponta⟩
    rcases mem_updateKey.mp mem_l with ⟨old, _, _, rfl⟩ | ⟨old, _⟩
    · exact .inr (Option.some.inj aponta)
    · exact .inl ⟨l, old, aponta⟩
  · rintro (⟨l, mem_l, aponta⟩ | rfl)
    · refine ⟨l, mem_updateKey.mpr (.inr ⟨mem_l, fun here => ?_⟩), aponta⟩
      -- the manual entry was not reconciled yet
      rw [emOrdem.eq_of_key_eq mem_l mem (here.trans named.symm), done.solto] at aponta
      cases aponta
    · exact ⟨_, mem_updateKey.mpr (.inl ⟨m, mem, named, rfl⟩), rfl⟩

theorem conciliado_desfazer {churchId manualId k : Id} {depois : LivroCaixa}
    (ok : s.caixa.desfazer churchId manualId = .ok depois)
    (after : Livros.Conciliado { s with caixa := depois } k) : s.Conciliado k := by
  unfold LivroCaixa.desfazer LivroCaixa.desligar at ok
  simp only [bind_eq_ok_iff] at ok
  obtain ⟨_, _, ok⟩ := ok
  obtain rfl := update_ok ok
  obtain ⟨l, mem, aponta⟩ := after
  rcases mem_updateKey.mp mem with ⟨old, _, _, rfl⟩ | ⟨old, _⟩
  · cases aponta
  · exact ⟨l, old, aponta⟩

theorem Livros.agir_of_ok {acao : Livros.Acao} {depois : Livros}
    (ok : s.executar brl acao = .ok depois) : s.agir brl acao = depois := by
  simp only [Livros.agir, ok]

theorem Livros.agir_of_error {acao : Livros.Acao} {falha : Failure}
    (refused : s.executar brl acao = .error falha) : s.agir brl acao = s := by
  simp only [Livros.agir, refused]

/-- An operation of the treasuries leaves the entries of the cash book. -/
theorem emOrdem_nasTesourarias {acao : Livros.Acao} {fim : Except Failure Tesourarias}
    (executa : s.executar brl acao = s.nasTesourarias fim) (emOrdem : s.caixa.EmOrdem) :
    (s.agir brl acao).caixa.EmOrdem := by
  cases fim with
  | error _ =>
      rw [Livros.agir_of_error executa]
      exact emOrdem
  | ok depois =>
      rw [Livros.agir_of_ok executa]
      exact emOrdem

/-- The key of the cash book, over an operation of the cash book. -/
theorem emOrdem_noCaixa {acao : Livros.Acao} {fim : Except Failure LivroCaixa}
    (executa : s.executar brl acao = s.noCaixa fim) (emOrdem : s.caixa.EmOrdem)
    (keep : ∀ depois, fim = .ok depois → depois.EmOrdem) : (s.agir brl acao).caixa.EmOrdem := by
  cases fim with
  | error _ =>
      rw [Livros.agir_of_error executa]
      exact emOrdem
  | ok depois =>
      rw [Livros.agir_of_ok executa]
      exact keep depois rfl

/-- The key of the cash book is kept by the operations of either book. -/
theorem emOrdem_agir (emOrdem : s.caixa.EmOrdem) (acao : Livros.Acao) :
    (s.agir brl acao).caixa.EmOrdem := by
  cases acao with
  | conciliar churchId bancoId manualId =>
      refine emOrdem_noCaixa rfl emOrdem fun depois ok => ?_
      obtain ⟨b, m, done⟩ := conciliou_of_ok ok
      rw [done.escrito]
      exact keyed_updateKey (keyed_updateKey emOrdem fun _ => rfl) fun _ => rfl
  | desfazer churchId manualId =>
      refine emOrdem_noCaixa rfl emOrdem fun depois ok => ?_
      unfold LivroCaixa.desfazer LivroCaixa.desligar at ok
      simp only [bind_eq_ok_iff] at ok
      obtain ⟨_, _, ok⟩ := ok
      obtain rfl := update_ok ok
      exact keyed_updateKey emOrdem fun _ => rfl
  | distribuir id partes => exact emOrdem_nasTesourarias rfl emOrdem
  | devolver id alocacaoId => exact emOrdem_nasTesourarias rfl emOrdem
  | conciliarNaTesouraria id movimentoId lancamentoIds => exact emOrdem_nasTesourarias rfl emOrdem
  | desfazerNaTesouraria id movimentoId => exact emOrdem_nasTesourarias rfl emOrdem

/-- An operation of the treasuries, from what it leaves allocated: the law holds after it exactly
when the movements it adds are not reconciled. -/
theorem umLivroSo_nasTesourarias (law : s.UmLivroSo) {acao : Livros.Acao}
    {fim : Except Failure Tesourarias} (executa : s.executar brl acao = s.nasTesourarias fim)
    (novos : Id → Prop)
    (alocado : ∀ depois, fim = .ok depois → ∀ k, depois.Alocado k →
      s.vistaDasTesourarias.Alocado k ∨ novos k)
    (novo : ∀ depois, fim = .ok depois → ∀ k, novos k → depois.Alocado k) :
    (s.agir brl acao).UmLivroSo ↔ (fim.isOk → ∀ k, novos k → ¬ s.Conciliado k) := by
  cases fim with
  | error falha =>
      rw [Livros.agir_of_error executa]
      refine iff_of_true law fun isOk => ?_
      cases isOk
  | ok depois =>
      rw [Livros.agir_of_ok executa]
      rw [umLivroSo_iff] at law ⊢
      constructor
      · exact fun after _ k is_novo conciliado => after k conciliado (novo depois rfl k is_novo)
      · intro free k conciliado aloc
        rcases alocado depois rfl k aloc with before | is_novo
        · exact law k conciliado before
        · exact free rfl k is_novo conciliado

/-- A reconciliation of the cash book that goes through. -/
theorem umLivroSo_conciliar {churchId bancoId manualId : Id} {depois : LivroCaixa}
    (emOrdem : s.caixa.EmOrdem) (law : s.UmLivroSo)
    (ok : s.caixa.conciliar churchId bancoId manualId = .ok depois) :
    Livros.UmLivroSo { s with caixa := depois } ↔ ∀ a ∈ s.caixa.alocacoes, a.entryId ≠ bancoId := by
  obtain ⟨b, m, done⟩ := conciliou_of_ok ok
  have alocacoes : depois.alocacoes = s.caixa.alocacoes := by rw [done.escrito]
  rw [umLivroSo_iff] at law ⊢
  constructor
  · intro after a mem named
    refine after bancoId ((conciliado_conciliar emOrdem ok).mpr (.inr rfl)) ⟨a, ?_, named⟩
    exact (congrArg (a ∈ ·) alocacoes).mpr mem
  · rintro free k conciliado ⟨a, mem, named⟩
    have mem : a ∈ s.caixa.alocacoes := (congrArg (a ∈ ·) alocacoes).mp mem
    rcases (conciliado_conciliar emOrdem ok).mp conciliado with before | rfl
    · exact law k before ⟨a, mem, named⟩
    · exact free a mem named

theorem umLivroSo_desfazer {churchId manualId : Id} {depois : LivroCaixa} (law : s.UmLivroSo)
    (ok : s.caixa.desfazer churchId manualId = .ok depois) :
    Livros.UmLivroSo { s with caixa := depois } := by
  rw [umLivroSo_iff] at law ⊢
  intro k conciliado alocado
  have before := conciliado_desfazer ok conciliado
  unfold LivroCaixa.desfazer LivroCaixa.desligar at ok
  simp only [bind_eq_ok_iff] at ok
  obtain ⟨_, _, ok⟩ := ok
  obtain rfl := update_ok ok
  exact law k before alocado

/-- One operation: a movement stays in one book exactly when the operation respects the other. -/
theorem umLivroSo_agir (emOrdem : s.caixa.EmOrdem) (law : s.UmLivroSo) (acao : Livros.Acao) :
    (s.agir brl acao).UmLivroSo ↔ RespeitaOOutroLivro brl s acao := by
  cases acao with
  | conciliar churchId bancoId manualId =>
      simp only [RespeitaOOutroLivro]
      cases ok : s.caixa.conciliar churchId bancoId manualId with
      | error falha =>
          have parado : s.agir brl (.conciliar churchId bancoId manualId) = s :=
            Livros.agir_of_error (congrArg s.noCaixa ok)
          rw [parado]
          refine iff_of_true law fun isOk => ?_
          cases isOk
      | ok depois =>
          have feito :
              s.agir brl (.conciliar churchId bancoId manualId) = { s with caixa := depois } :=
            Livros.agir_of_ok (congrArg s.noCaixa ok)
          rw [feito, umLivroSo_conciliar emOrdem law ok]
          exact ⟨fun free _ => free, fun free => free rfl⟩
  | desfazer churchId manualId =>
      refine iff_of_true ?_ trivial
      cases ok : s.caixa.desfazer churchId manualId with
      | error falha =>
          have parado : s.agir brl (.desfazer churchId manualId) = s :=
            Livros.agir_of_error (congrArg s.noCaixa ok)
          rw [parado]
          exact law
      | ok depois =>
          have feito : s.agir brl (.desfazer churchId manualId) = { s with caixa := depois } :=
            Livros.agir_of_ok (congrArg s.noCaixa ok)
          rw [feito]
          exact umLivroSo_desfazer law ok
  | distribuir id partes =>
      refine (umLivroSo_nasTesourarias law rfl (fun k => ∃ parte ∈ partes, parte.movimentoId = k)
        (fun _ ok k => (alocado_distribuir ok).mp)
        (fun _ ok k novo => (alocado_distribuir ok).mpr (.inr novo))).trans ?_
      refine imp_congr_right fun _ => ⟨fun free parte mem => free _ ⟨parte, mem, rfl⟩, ?_⟩
      rintro free k ⟨parte, mem, rfl⟩
      exact free parte mem
  | devolver id alocacaoId =>
      refine (umLivroSo_nasTesourarias law rfl (fun _ => False)
        (fun _ ok k alocado => .inl (alocado_devolver ok alocado))
        (fun _ _ _ => False.elim)).trans ?_
      exact iff_of_true (fun _ _ => False.elim) trivial
  | conciliarNaTesouraria id movimentoId lancamentoIds =>
      refine (umLivroSo_nasTesourarias law rfl (fun k => movimentoId = k)
        (fun _ ok k => (alocado_conciliar ok).mp)
        (fun _ ok k novo => (alocado_conciliar ok).mpr (.inr novo))).trans ?_
      exact imp_congr_right fun _ => ⟨fun free => free movimentoId rfl, fun free k same =>
        same ▸ free⟩
  | desfazerNaTesouraria id movimentoId =>
      refine (umLivroSo_nasTesourarias law rfl (fun _ => False)
        (fun _ ok k alocado => .inl (alocado_desfazer ok alocado))
        (fun _ _ _ => False.elim)).trans ?_
      exact iff_of_true (fun _ _ => False.elim) trivial

end Livros

/-- In a run of reconciliations of the Administrativa and of operations of the treasuries, no
movement is at the same time reconciled in the cash book and allocated to a treasury, in every state
reached, exactly when no operation that goes through takes a movement of the other book. -/
theorem umLivroSo_run_iff (brl : Int → String) {s : Livros} (emOrdem : s.caixa.EmOrdem)
    (law : s.UmLivroSo) (acoes : List Livros.Acao) :
    Always (Livros.agir brl) Livros.UmLivroSo s acoes ↔
      EachStep (Livros.agir brl) (RespeitaOOutroLivro brl) s acoes :=
  always_iff_eachStep_of_invariant (I := fun s : Livros => s.caixa.EmOrdem ∧ s.UmLivroSo)
    (fun _ inv => inv.2)
    (fun _ acao inv keep =>
      ⟨emOrdem_agir inv.1 acao, (umLivroSo_agir inv.1 inv.2 acao).mpr keep⟩)
    (fun _ acao inv after => (umLivroSo_agir inv.1 inv.2 acao).mp after) ⟨emOrdem, law⟩

/-! ### A deposit in both books -/

namespace OfertaDoBanco

/-- The treasury of a congregation, open. -/
def tesouraria : Treasury := ⟨2, 1, .congregation, none, none⟩

/-- The deposit and the offering of the cash book, and a treasury with nothing yet. -/
def doisLivros : Livros where
  caixa := runFrom LivroCaixa.agir vazio [.importar 1 (.ok [pix]) 0, .criar 1 oferta 1]
  tesourarias :=
    { churchId := 1
      integracao := none
      treasuries := [tesouraria]
      movimentos := []
      payments := []
      fullName := fun _ => none
      diaDoPagamento := fun _ => 0
      alocacoes := []
      links := []
      entries := []
      nextId := 100 }

/-- The deposit is reconciled with the offering, and then brought to the treasury. -/
def distribuida : List Livros.Acao := [.conciliar 1 0 1, .distribuir 2 [⟨0, none⟩]]

end OfertaDoBanco

theorem emOrdem_doisLivros : OfertaDoBanco.doisLivros.caixa.EmOrdem :=
  ⟨by decide +kernel, by decide +kernel⟩

theorem umLivroSo_doisLivros : OfertaDoBanco.doisLivros.UmLivroSo := by
  intro m _ b _ a mem
  cases mem

/-- The offering left the totals for the deposit, and the deposit is also in the treasury. -/
theorem doisLivros_distribuida :
    ¬ (runFrom (Livros.agir fun _ => "") OfertaDoBanco.doisLivros
      OfertaDoBanco.distribuida).UmLivroSo := by
  intro law
  have conciliado : ∃ m ∈ (runFrom (Livros.agir fun _ => "") OfertaDoBanco.doisLivros
      OfertaDoBanco.distribuida).caixa.lancamentos, m.reconciledWithId = some 0 := by
    decide +kernel
  have alocado : ∃ a ∈ (runFrom (Livros.agir fun _ => "") OfertaDoBanco.doisLivros
      OfertaDoBanco.distribuida).caixa.alocacoes, a.entryId = 0 := by
    decide +kernel
  obtain ⟨m, mem, aponta⟩ := conciliado
  obtain ⟨a, mem_a, named⟩ := alocado
  exact law m mem 0 aponta a mem_a named

theorem not_umLivroSo_distribuida :
    ¬ Always (Livros.agir fun _ => "") Livros.UmLivroSo OfertaDoBanco.doisLivros
      OfertaDoBanco.distribuida :=
  fun always => doisLivros_distribuida always.last

/-- In that run one book takes what the other already has. -/
theorem umLivroSo_run_iff_distribuida :
    ¬ EachStep (Livros.agir fun _ => "") (RespeitaOOutroLivro fun _ => "") OfertaDoBanco.doisLivros
      OfertaDoBanco.distribuida := by
  intro respeita
  have always := (umLivroSo_run_iff (fun _ => "") emOrdem_doisLivros umLivroSo_doisLivros _).mpr
    respeita
  exact doisLivros_distribuida always.last

end IccvBackend
