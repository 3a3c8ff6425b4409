/-
Module: IccvBackend.Proofs.Categories
Purpose: The category of an entry fits its type, whoever wrote it.
Trusted boundary: none
Main exports: LivroCaixa.CategoriasNoTipo, LivroCaixa.Classificado, categoriasNoTipo_run
-/
import IccvBackend.Proofs.CashBook
import IccvBackend.Treasury.Planilha

namespace IccvBackend

open Lib

/-- The category is one of those of the type. -/
def Lancamento.Cabe (l : Lancamento) : Prop := categoriaCabeNoTipo l.category l.type

/-- Every category fits its type, so no category has entries of both types. -/
structure LivroCaixa.CategoriasNoTipo (db : LivroCaixa) : Prop where
  cabe : ∀ l ∈ db.lancamentos, categoriaCabeNoTipo l.category l.type
  sem_mistura : ∀ a ∈ db.lancamentos, ∀ b ∈ db.lancamentos, a.category = b.category →
    a.type = b.type

/-- No category is of both types. -/
theorem tipo_unico {categoria : FinancialCategory} {a b : FinancialEntryType}
    (here : categoriaCabeNoTipo categoria a) (there : categoriaCabeNoTipo categoria b) : a = b := by
  revert here there
  cases a <;> cases b <;> cases categoria <;> decide

/-- A transaction of the bank is put in a category of its direction. -/
theorem categoriaDaTransacao_cabe (t : TransacaoDoBanco) (porCpf : String → Option DizimistaDoCpf) :
    categoriaCabeNoTipo (lancamentoDaTransacao t porCpf).category
      (lancamentoDaTransacao t porCpf).type := by
  unfold lancamentoDaTransacao categoriaDaTransacao
  cases t.type with
  | credit =>
      simp only
      split
      · split
        · rfl
        · split <;> rfl
      · rfl
  | debit =>
      simp only
      cases found : saidasDaPluggy.find? fun saida => casa saida.1 (t.category.getD "") with
      | none => rfl
      | some saida =>
          -- every category of the table is of an expense
          have listed : ∀ saida ∈ saidasDaPluggy, categoriaCabeNoTipo saida.2 .expense := by decide
          exact listed saida (List.mem_of_find?_eq_some found)

/-- The row of an import, in any account. -/
theorem linhaImportada_cabe (db : LivroCaixa) (churchId : Id) (integracao : PluggyIntegration)
    (agora : Instant) (t : TransacaoDoBanco) (id : Id) :
    (db.linhaImportada churchId integracao agora t id).Cabe := by
  unfold Lancamento.Cabe LivroCaixa.linhaImportada
  simp only
  split
  · exact categoriaDaTransacao_cabe t _
  · split
    · next income => rw [income]; rfl
    · next other =>
        cases tipo : (lancamentoDaTransacao t (db.porCpf churchId)).type with
        | income => exact absurd tipo other
        | expense => rfl

/-! ### One operation -/

namespace LivroCaixa

/-- The key of the entries, and the law of the categories. -/
structure Classificado (db : LivroCaixa) : Prop where
  emOrdem : db.EmOrdem
  cabe : ∀ l ∈ db.lancamentos, l.Cabe

theorem Classificado.categoriasNoTipo {db : LivroCaixa} (inv : db.Classificado) :
    db.CategoriasNoTipo where
  cabe := inv.cabe
  sem_mistura a mem_a b mem_b same := by
    have here := inv.cabe a mem_a
    have there := inv.cabe b mem_b
    rw [Lancamento.Cabe, ← same] at there
    exact tipo_unico here there

end LivroCaixa

section Operacoes

variable {db depois : LivroCaixa} {churchId id : Id}

theorem classificado_inserirNova (inv : db.Classificado) {nova : Id → Lancamento}
    (named : ∀ k, (nova k).id = k) (cabe : ∀ k, (nova k).Cabe) :
    (db.inserirNova nova).Classificado := by
  unfold LivroCaixa.inserirNova
  split
  · exact inv
  · refine ⟨inv.emOrdem.append_fresh (named db.nextId), fun l mem => ?_⟩
    rcases List.mem_append.mp mem with old | new
    · exact inv.cabe l old
    · obtain rfl := List.mem_singleton.mp new
      exact cabe db.nextId

/-- Rewriting the entry of an id to one whose category fits. -/
theorem classificado_updateKey {f : Lancamento → Lancamento} (inv : db.Classificado)
    (same_id : ∀ l, (f l).id = l.id)
    (cabe : ∀ l ∈ db.lancamentos, l.id = id → (f l).Cabe) :
    LivroCaixa.Classificado
      { db with lancamentos := updateKey Lancamento.id id f db.lancamentos } := by
  refine ⟨keyed_updateKey inv.emOrdem same_id, fun l mem => ?_⟩
  rcases mem_updateKey.mp mem with ⟨old, old_mem, named, rfl⟩ | ⟨old_mem, _⟩
  · exact cabe old old_mem named
  · exact inv.cabe l old_mem

theorem classificado_criar {dto : CreateEntryDto} {agora : Instant} (inv : db.Classificado)
    (ok : db.criar churchId dto agora = .ok depois) : depois.Classificado := by
  unfold LivroCaixa.criar LivroCaixa.conferirCategoria at ok
  simp only [bind_eq_ok_iff, pure_eq_ok_iff, failIf_eq_ok_iff, exists_const, Bool.not_eq_true',
    Bool.not_eq_false] at ok
  obtain ⟨cabe, _, _, rfl⟩ := ok
  refine ⟨inv.emOrdem.append_fresh rfl, fun l mem => ?_⟩
  rcases List.mem_append.mp mem with old | new
  · exact inv.cabe l old
  · obtain rfl := List.mem_singleton.mp new
    exact cabe

/-- An imported entry keeps its type, and a typed one takes the type that was checked. -/
theorem classificado_atualizar {dto : UpdateEntryDto} (inv : db.Classificado)
    (ok : db.atualizar churchId id dto = .ok depois) : depois.Classificado := by
  obtain ⟨l, done⟩ := (atualizar_ok_iff inv.emOrdem).mp ok
  obtain ⟨mem, rfl, _⟩ := done.lancamento
  rw [done.escrito]
  refine classificado_updateKey inv (fun l => ?_) fun row mem_row named => ?_
  · cases source : l.source <;> simp [LivroCaixa.editar, source]
  · obtain rfl := inv.emOrdem.eq_of_key_eq mem_row mem named
    have cabe := done.cabe
    cases source : row.source with
    | manual => simpa [Lancamento.Cabe, LivroCaixa.editar, source] using cabe
    | pluggy =>
        have locked := done.importado source
        have same : dto.type.getD row.type = row.type := by
          cases came : dto.type with
          | none => rfl
          | some tipo =>
              simp only [LivroCaixa.mexeuNoTravado, came, Option.any_some, Bool.or_eq_false_iff,
                decide_eq_false_iff_not, not_not] at locked
              exact locked.1.1.1.symm
        rw [same] at cabe
        simpa [Lancamento.Cabe, LivroCaixa.editar, source] using cabe

theorem classificado_importar {transacoes : Except Failure (List TransacaoDoBanco)}
    {agora : Instant} (inv : db.Classificado)
    (ok : db.importar churchId transacoes agora = .ok depois) : depois.Classificado := by
  unfold LivroCaixa.importar at ok
  simp only [bind_eq_ok_iff, orFail_eq_ok_iff, pure_eq_ok_iff] at ok
  obtain ⟨integracao, _, lidas, _, rfl⟩ := ok
  refine List.foldlRecOn lidas _ (motive := LivroCaixa.Classificado) inv ?_
  intro atual inv t _
  exact classificado_inserirNova inv (fun _ => rfl) 
    (linhaImportada_cabe db churchId integracao agora t)

theorem classificado_remover (inv : db.Classificado)
    (ok : db.remover churchId id = .ok depois) : depois.Classificado := by
  unfold LivroCaixa.remover at ok
  simp only [bind_eq_ok_iff, failIf_eq_ok_iff, pure_eq_ok_iff, exists_const] at ok
  obtain ⟨l, _, _, rfl⟩ := ok
  exact ⟨inv.emOrdem.filter _, fun l mem => inv.cabe l (mem_deleteKey.mp mem).1⟩

/-- The bank entry takes the category of a manual one of the same type. -/
theorem classificado_conciliar {bancoId manualId : Id} (inv : db.Classificado)
    (ok : db.conciliar churchId bancoId manualId = .ok depois) : depois.Classificado := by
  obtain ⟨b, m, done⟩ := conciliou_of_ok ok
  obtain ⟨mem_b, rfl, _⟩ := done.banco
  have cabe : categoriaCabeNoTipo m.category m.type := inv.cabe m done.manual.1
  have ligado : LivroCaixa.Classificado { db with
      lancamentos := updateKey Lancamento.id manualId
        (fun l => { l with reconciledWithId := some b.id, notInBankAt := none })
        db.lancamentos } :=
    classificado_updateKey inv (fun _ => rfl) fun l mem _ => inv.cabe l mem
  rw [done.escrito]
  refine classificado_updateKey ligado (fun _ => rfl) fun row mem named => ?_
  -- the row written is the bank entry, of the type of the manual one
  have tipo : row.type = m.type := by
    rw [← done.tipo]
    rcases mem_updateKey.mp mem with ⟨old, old_mem, _, rfl⟩ | ⟨old_mem, _⟩
    · have read : old = b := inv.emOrdem.eq_of_key_eq old_mem mem_b named
      simp only [read]
    · exact congrArg Lancamento.type (inv.emOrdem.eq_of_key_eq old_mem mem_b named)
  rw [Lancamento.Cabe, tipo]
  exact cabe

theorem classificado_conciliarLinhas (linhas : List LinhaDaConciliacao) :
    ∀ {db : LivroCaixa}, db.Classificado →
      (LivroCaixa.conciliarLinhas churchId db linhas).Classificado := by
  induction linhas with
  | nil => exact fun inv => inv
  | cons linha linhas ih =>
      intro db inv
      unfold LivroCaixa.conciliarLinhas
      split
      · split
        · exact ih (classificado_conciliar inv ‹_›)
        · exact inv
      · exact ih inv

theorem classificado_desfazer (inv : db.Classificado)
    (ok : db.desfazer churchId id = .ok depois) : depois.Classificado := by
  unfold LivroCaixa.desfazer LivroCaixa.desligar at ok
  simp only [bind_eq_ok_iff] at ok
  obtain ⟨_, _, ok⟩ := ok
  obtain rfl := update_ok ok
  exact classificado_updateKey inv (fun _ => rfl) fun l mem _ => inv.cabe l mem

theorem classificado_marcarNaoConsta {naoConsta : Bool} {agora : Instant} (inv : db.Classificado)
    (ok : db.marcarNaoConsta churchId id naoConsta agora = .ok depois) : depois.Classificado := by
  unfold LivroCaixa.marcarNaoConsta at ok
  simp only [bind_eq_ok_iff] at ok
  obtain ⟨_, _, _, _, _, _, ok⟩ := ok
  obtain rfl := update_ok ok
  exact classificado_updateKey inv (fun _ => rfl) fun l mem _ => inv.cabe l mem

theorem classificado_executar {acao : LivroCaixa.Acao} (inv : db.Classificado)
    (ok : db.executar acao = .ok depois) : depois.Classificado := by
  cases acao with
  | criar => exact classificado_criar inv ok
  | atualizar => exact classificado_atualizar inv ok
  | remover => exact classificado_remover inv ok
  | importar => exact classificado_importar inv ok
  | conciliar => exact classificado_conciliar inv ok
  | desfazer => exact classificado_desfazer inv ok
  | marcarNaoConsta => exact classificado_marcarNaoConsta inv ok
  | conciliarSugeridos churchId relogio de ate =>
      simp only [LivroCaixa.executar, LivroCaixa.conciliarSugeridos, bind_eq_ok_iff,
        pure_eq_ok_iff] at ok
      obtain ⟨linhas, _, rfl⟩ := ok
      exact classificado_conciliarLinhas linhas inv

theorem classificado_agir (inv : db.Classificado) (acao : LivroCaixa.Acao) :
    (db.agir acao).Classificado := by
  cases ok : db.executar acao with
  | error _ =>
      rw [LivroCaixa.agir_of_error ok]
      exact inv
  | ok depois =>
      rw [LivroCaixa.agir_of_ok ok]
      exact classificado_executar inv ok

end Operacoes

/-! ### The spreadsheet -/

section Planilha

variable {normalizar : String → String}

/-- Becoming a member writes no entry. -/
theorem tornarMembro_lancamentos {db depois : LivroCaixa} {churchId userId : Id}
    (ok : db.tornarMembro churchId userId = .ok depois) :
    depois.lancamentos = db.lancamentos ∧ depois.nextId = db.nextId := by
  unfold LivroCaixa.tornarMembro at ok
  simp only [bind_eq_ok_iff, failIf_eq_ok_iff, exists_const, pure_eq_ok_iff] at ok
  obtain ⟨_, rfl⟩ := ok
  exact ⟨rfl, rfl⟩

/-- Reading a line of the spreadsheet writes no entry. -/
theorem lerLinha_lancamentos (churchId : Id) (ano : Nat) (s : LeituraDaPlanilha)
    (linha : LinhaDaPlanilha) :
    (s.lerLinha normalizar churchId ano linha).db.lancamentos = s.db.lancamentos ∧
      (s.lerLinha normalizar churchId ano linha).db.nextId = s.db.nextId := by
  unfold LeituraDaPlanilha.lerLinha
  split
  · exact ⟨rfl, rfl⟩
  · split
    · exact ⟨rfl, rfl⟩
    · split
      · exact ⟨rfl, rfl⟩
      · split
        · exact ⟨rfl, rfl⟩
        · split
          · exact ⟨rfl, rfl⟩
          · next entered => exact tornarMembro_lancamentos entered

theorem classificado_planilha {db : LivroCaixa} (inv : db.Classificado) (churchId : Id) (ano : Nat)
    (linhas : List LinhaDaPlanilha) (agora : Instant) :
    (db.importarPlanilha normalizar churchId ano linhas agora).1.Classificado := by
  unfold LivroCaixa.importarPlanilha
  simp only
  have read : (linhas.foldl (LeituraDaPlanilha.lerLinha normalizar churchId ano)
      { db := db
        pessoas := fun id => (lookup Membro.id id db.membros).map Membro.memberChurchId
        porChave := []
        novosMembros := 0
        ignorados := [] }).db.Classificado := by
    refine List.foldlRecOn linhas _ (motive := fun s : LeituraDaPlanilha =>
      s.db.Classificado) inv ?_
    intro s inv linha _
    obtain ⟨entries, next⟩ := @lerLinha_lancamentos normalizar churchId ano s linha
    refine ⟨?_, ?_⟩
    · rw [LivroCaixa.EmOrdem, entries, next]
      exact inv.emOrdem
    · rw [entries]
      exact inv.cabe
  split
  · exact read
  · refine List.foldlRecOn _ _ (motive := LivroCaixa.Classificado) read ?_
    intro atual inv d _
    exact classificado_inserirNova inv (fun _ => rfl) fun _ => rfl

theorem classificado_escrever {db : LivroCaixa} (inv : db.Classificado)
    (escritor : LivroCaixa.Escritor) : (db.escrever normalizar escritor).Classificado := by
  cases escritor with
  | livro acao => exact classificado_agir inv acao
  | planilha churchId ano linhas agora => exact classificado_planilha inv churchId ano linhas agora
  | cadastros membros integracoes => exact ⟨inv.emOrdem, inv.cabe⟩

/-- Over every run of the cash book from one with no entries, whatever the people, the integrations,
the transactions of the banks and the spreadsheets: the category of an entry fits its type, and no
category has entries of both types. -/
theorem categoriasNoTipo_run (normalizar : String → String) (db : LivroCaixa)
    (vazio : db.lancamentos = []) (escritores : List LivroCaixa.Escritor) :
    Always (LivroCaixa.escrever normalizar) LivroCaixa.CategoriasNoTipo db escritores := by
  have start : db.Classificado := by
    refine ⟨?_, ?_⟩
    · rw [LivroCaixa.EmOrdem, vazio]
      exact Keyed.nil
    · rw [vazio]
      exact fun _ absent => absurd absent List.not_mem_nil
  have keep : ∀ (atual : LivroCaixa) (escritor : LivroCaixa.Escritor), atual.Classificado →
      (atual.escrever normalizar escritor).Classificado :=
    fun _ escritor inv => classificado_escrever inv escritor
  have kept := always_of_step keep start escritores
  exact kept.mono fun db inv => inv.categoriasNoTipo

end Planilha

namespace OfertaDoBanco

/-- A line of the spreadsheet without a person, with a tithe in January. -/
def anonimo : LinhaDaPlanilha := ⟨"Anônimo", none, [150, 0, 0, 0, 0, 0, 0, 0, 0, 0, 0, 0]⟩

/-- The spreadsheet, then a bank deposit reconciled with an offering that becomes an expense. -/
def escritos : List LivroCaixa.Escritor :=
  .planilha 1 2026 [anonimo] 0 :: editada.map .livro

end OfertaDoBanco

/-- The edit breaks the pair, and the categories still fit. -/
theorem categoriasNoTipo_editada :
    Always (LivroCaixa.escrever id) LivroCaixa.CategoriasNoTipo OfertaDoBanco.vazio
      OfertaDoBanco.escritos :=
  categoriasNoTipo_run id OfertaDoBanco.vazio rfl OfertaDoBanco.escritos

end IccvBackend
