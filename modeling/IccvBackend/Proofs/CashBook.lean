/-
Module: IccvBackend.Proofs.CashBook
Purpose: When the reconciled pairs of the cash book stay well formed, and when a bank movement
  belongs to one book only.
Trusted boundary: none
Main exports: LivroCaixa.ParesBemFormados, MudaTipoDoPar, paresBemFormados_run_iff
-/
import IccvBackend.Treasury.CashBook

namespace IccvBackend

open Lib

/-! ### The law of the pairs -/

/-- A manual entry reconciled with a bank one: the same church and type, no other entry on that bank
one, and no mark that the bank does not show it. -/
structure ParBemFormado (lancamentos : List Lancamento) (m : Lancamento) (b : Id) : Prop where
  manual : m.source = .manual
  consta : m.notInBankAt = none
  banco : ∃ l ∈ lancamentos, l.id = b ∧ l.source = .pluggy ∧ l.churchId = m.churchId ∧
    l.type = m.type
  unico : ∀ outro ∈ lancamentos, outro.reconciledWithId = some b → outro = m

def ParesBemFormados (lancamentos : List Lancamento) : Prop :=
  ∀ m ∈ lancamentos, ∀ b, m.reconciledWithId = some b → ParBemFormado lancamentos m b

namespace LivroCaixa

/-- Every reconciled entry of the book is in a well-formed pair. -/
def ParesBemFormados (db : LivroCaixa) : Prop := IccvBackend.ParesBemFormados db.lancamentos

/-- The primary key of the entries. -/
def EmOrdem (db : LivroCaixa) : Prop := Keyed Lancamento.id db.nextId db.lancamentos

end LivroCaixa

/-- An edit of a reconciled manual entry to another type, with a category that fits the new type and
a tither who is a member. -/
def MudaTipoDoPar (db : LivroCaixa) : LivroCaixa.Acao → Prop
  | .atualizar churchId id dto =>
      ∃ m ∈ db.lancamentos, m.id = id ∧ m.churchId = churchId ∧ m.source = .manual ∧
        m.reconciledWithId.isSome ∧
        ∃ tipo, dto.type = some tipo ∧ tipo ≠ m.type ∧
          categoriaCabeNoTipo (dto.category.getD m.category) tipo ∧
          ∀ userId, dto.userId = some (some userId) → db.ehMembro churchId userId
  | _ => False

/-! ### What each operation writes -/

section Escritas

variable {db depois : LivroCaixa} {churchId id bancoId manualId : Id}
  {f : Lancamento → Lancamento}

theorem update_ok (ok : db.update id f = .ok depois) :
    depois = { db with lancamentos := updateKey Lancamento.id id f db.lancamentos } := by
  unfold LivroCaixa.update at ok
  simp only [bind_eq_ok_iff, orFail_eq_ok_iff, pure_eq_ok_iff] at ok
  obtain ⟨_, _, rfl⟩ := ok
  rfl

theorem update_of_mem {l : Lancamento} (mem : l ∈ db.lancamentos) (named : l.id = id) :
    db.update id f =
      .ok { db with lancamentos := updateKey Lancamento.id id f db.lancamentos } := by
  obtain ⟨row, found⟩ :=
    Option.isSome_iff_exists.mp (lookup_isSome_of_mem Lancamento.id mem)
  simp [LivroCaixa.update, ← named, found, orFail, bind, Except.bind, pure, Except.pure]

theorem doLivro?_some {l : Lancamento} (found : db.doLivro? churchId id = some l) :
    l ∈ db.lancamentos ∧ l.id = id ∧ l.churchId = churchId := by
  unfold LivroCaixa.doLivro? at found
  obtain ⟨found, church⟩ := Option.filter_eq_some_iff.mp found
  exact ⟨lookup_mem found, lookup_key found, by simpa using church⟩

theorem exigir_ok {l : Lancamento} (ok : db.exigir churchId id = .ok l) :
    l ∈ db.lancamentos ∧ l.id = id ∧ l.churchId = churchId :=
  doLivro?_some (orFail_eq_ok_iff.mp ok)

theorem doLivro?_of_mem (emOrdem : db.EmOrdem) {l : Lancamento} (mem : l ∈ db.lancamentos) :
    db.doLivro? l.churchId l.id = some l := by
  have found := (lookup_eq_some_iff emOrdem.nodup).mpr ⟨mem, rfl⟩
  simp [LivroCaixa.doLivro?, found]

/-- What a reconciliation finds and writes. -/
structure ConciliouPar (db : LivroCaixa) (churchId bancoId manualId : Id) (b m : Lancamento)
    (depois : LivroCaixa) : Prop where
  banco : b ∈ db.lancamentos ∧ b.id = bancoId ∧ b.churchId = churchId ∧ b.source = .pluggy
  manual : m ∈ db.lancamentos ∧ m.id = manualId ∧ m.churchId = churchId ∧ m.source = .manual
  tipo : b.type = m.type
  solto : m.reconciledWithId = none
  livre : ∀ l ∈ db.lancamentos, l.reconciledWithId ≠ some bancoId
  escrito : depois = { db with
    lancamentos := updateKey Lancamento.id bancoId
      (fun l => { l with category := m.category, userId := m.userId <|> b.userId })
      (updateKey Lancamento.id manualId
        (fun l => { l with reconciledWithId := some bancoId, notInBankAt := none })
        db.lancamentos) }

theorem conferirPar_ok {banco manual reconciledBy : Option Lancamento} {b m : Lancamento}
    (ok : LivroCaixa.conferirPar banco manual reconciledBy = .ok (b, m)) :
    banco = some b ∧ manual = some m ∧ b.source = .pluggy ∧ m.source = .manual ∧
      b.type = m.type ∧ reconciledBy = none ∧ m.reconciledWithId = none := by
  unfold LivroCaixa.conferirPar at ok
  simp only [bind_eq_ok_iff, orFail_eq_ok_iff, pure_eq_ok_iff, failIf_eq_ok_iff, Prod.mk.injEq,
    Bool.or_eq_true, not_or, Option.not_isSome_iff_eq_none, Decidable.not_not, exists_const] at ok
  obtain ⟨b', found, m', found', pluggy, manual, tipo, ⟨livre, solto⟩, rfl, rfl⟩ := ok
  exact ⟨found, found', pluggy, manual, tipo, livre, solto⟩

theorem conciliou_of_ok (ok : db.conciliar churchId bancoId manualId = .ok depois) :
    ∃ b m, ConciliouPar db churchId bancoId manualId b m depois := by
  unfold LivroCaixa.conciliar LivroCaixa.ligar LivroCaixa.herdar at ok
  simp only [bind_eq_ok_iff, failIf_eq_ok_iff, exists_const] at ok
  obtain ⟨⟨b, m⟩, checked, ligado, ⟨_, ligou⟩, herdou⟩ := ok
  obtain ⟨found, found', pluggy, manual, tipo, livre, solto⟩ := conferirPar_ok checked
  obtain ⟨mem, rfl, church⟩ := doLivro?_some found
  obtain ⟨mem', rfl, church'⟩ := doLivro?_some found'
  obtain rfl := update_ok ligou
  obtain rfl := update_ok herdou
  have free : ∀ l ∈ db.lancamentos, l.reconciledWithId ≠ some b.id := by
    simpa [LivroCaixa.reconciledBy] using livre
  exact ⟨b, m, ⟨mem, rfl, church, pluggy⟩, ⟨mem', rfl, church', manual⟩, tipo, solto, free, rfl⟩

end Escritas

/-! ### Rewritten rows -/

/-- A rewritten entry that keeps what the pairs speak of: its keys, its type when it is of the bank
or still reconciled, and no new reconciliation or mark on a reconciled one. -/
structure MantemOPar (l novo : Lancamento) : Prop where
  id : novo.id = l.id
  church : novo.churchId = l.churchId
  source : novo.source = l.source
  tipo : l.source = .pluggy ∨ novo.reconciledWithId.isSome → novo.type = l.type
  par : ∀ b, novo.reconciledWithId = some b →
    l.reconciledWithId = some b ∧ novo.notInBankAt = l.notInBankAt

theorem MantemOPar.refl (l : Lancamento) : MantemOPar l l where
  id := rfl
  church := rfl
  source := rfl
  tipo _ := rfl
  par _ same := ⟨same, rfl⟩

section Leis

variable {db : LivroCaixa} {rows : List Lancamento} {churchId id bancoId manualId : Id}
  {f : Lancamento → Lancamento}

theorem keyed_updateKey {next : Nat} (keyed : Keyed Lancamento.id next rows)
    (same_id : ∀ l, (f l).id = l.id) :
    Keyed Lancamento.id next (updateKey Lancamento.id id f rows) :=
  keyed.map fun l => by split <;> simp only [same_id]

/-- Rewriting one entry without touching what the pairs speak of keeps them. -/
theorem pares_updateKey (pares : ParesBemFormados rows)
    (keep : ∀ l ∈ rows, l.id = id → MantemOPar l (f l)) :
    ParesBemFormados (updateKey Lancamento.id id f rows) := by
  set g : Lancamento → Lancamento := fun l => if l.id = id then f l else l with hg
  have all : ∀ l ∈ rows, MantemOPar l (g l) := by
    intro l mem
    by_cases here : l.id = id
    · simpa [hg, here] using keep l mem here
    · simpa [hg, here] using MantemOPar.refl l
  intro novo mem b aponta
  obtain ⟨m, mem_m, rfl⟩ := List.mem_map.mp mem
  have kept := all m mem_m
  obtain ⟨antes, mark⟩ := kept.par b aponta
  have pair := pares m mem_m b antes
  refine ⟨kept.source.trans pair.manual, mark.trans pair.consta, ?_, ?_⟩
  · obtain ⟨l, mem_l, named, pluggy, church, tipo⟩ := pair.banco
    have kept_l := all l mem_l
    refine ⟨g l, List.mem_map_of_mem mem_l, kept_l.id.trans named, kept_l.source.trans pluggy,
      (kept_l.church.trans church).trans kept.church.symm, ?_⟩
    have same := kept.tipo (.inr (Option.isSome_iff_exists.mpr ⟨b, aponta⟩))
    exact ((kept_l.tipo (.inl pluggy)).trans tipo).trans same.symm
  · intro outro mem_outro aponta'
    obtain ⟨o, mem_o, rfl⟩ := List.mem_map.mp mem_outro
    rw [pair.unico o mem_o ((all o mem_o).par b aponta').1]

/-- A new entry is in no pair. -/
theorem pares_append (pares : ParesBemFormados rows) {novo : Lancamento}
    (solto : novo.reconciledWithId = none) : ParesBemFormados (rows ++ [novo]) := by
  intro m mem b aponta
  rcases List.mem_append.mp mem with old | new
  · have pair := pares m old b aponta
    obtain ⟨l, mem_l, rest⟩ := pair.banco
    refine ⟨pair.manual, pair.consta, ⟨l, List.mem_append_left _ mem_l, rest⟩, ?_⟩
    intro outro mem_outro aponta'
    rcases List.mem_append.mp mem_outro with old' | new'
    · exact pair.unico outro old' aponta'
    · simp_all
  · simp_all

/-- The bank side of a pair is never a manual entry, so deleting one keeps the other pairs. -/
theorem pares_deleteKey (emOrdem : db.EmOrdem) (pares : db.ParesBemFormados) {l : Lancamento}
    (mem : l ∈ db.lancamentos) (manual : l.source = .manual) :
    ParesBemFormados (deleteKey Lancamento.id l.id db.lancamentos) := by
  intro m mem_m b aponta
  have pair := pares m (mem_deleteKey.mp mem_m).1 b aponta
  obtain ⟨banco, mem_b, named, pluggy, rest⟩ := pair.banco
  refine ⟨pair.manual, pair.consta, ⟨banco, mem_deleteKey.mpr ⟨mem_b, fun same => ?_⟩, named,
    pluggy, rest⟩, fun outro mem_outro => pair.unico outro (mem_deleteKey.mp mem_outro).1⟩
  rw [emOrdem.eq_of_key_eq mem_b mem same, manual] at pluggy
  cases pluggy

/-- Reconciling makes one well-formed pair and leaves the others. -/
theorem ConciliouPar.pares {b m : Lancamento} {depois : LivroCaixa} (emOrdem : db.EmOrdem)
    (pares : db.ParesBemFormados) (done : ConciliouPar db churchId bancoId manualId b m depois) :
    depois.ParesBemFormados := by
  obtain ⟨mem_b, rfl, church_b, pluggy⟩ := done.banco
  obtain ⟨mem_m, rfl, church_m, manual⟩ := done.manual
  have apart : b.id ≠ m.id := by
    intro same
    rw [emOrdem.eq_of_key_eq mem_b mem_m same, manual] at pluggy
    cases pluggy
  set liga : Lancamento → Lancamento :=
    fun l => { l with reconciledWithId := some b.id, notInBankAt := none } with hliga
  have ligado : ParesBemFormados (updateKey Lancamento.id m.id liga db.lancamentos) := by
    intro novo mem c aponta
    rcases mem_updateKey.mp mem with ⟨old, old_mem, named, rfl⟩ | ⟨old_mem, other⟩
    · obtain rfl := emOrdem.eq_of_key_eq old_mem mem_m named
      obtain rfl : b.id = c := by simpa [hliga] using aponta
      refine ⟨manual, rfl, ⟨b, mem_updateKey.mpr (.inr ⟨mem_b, apart⟩), rfl, pluggy,
        church_b.trans church_m.symm, done.tipo⟩, ?_⟩
      intro outro mem_outro aponta'
      rcases mem_updateKey.mp mem_outro with ⟨o, o_mem, o_named, rfl⟩ | ⟨o_mem, _⟩
      · rw [emOrdem.eq_of_key_eq o_mem mem_m o_named]
      · exact absurd aponta' (done.livre outro o_mem)
    · have pair := pares novo old_mem c aponta
      obtain ⟨l, mem_l, named, pluggy_l, rest⟩ := pair.banco
      have l_other : l.id ≠ m.id := by
        intro same
        rw [emOrdem.eq_of_key_eq mem_l mem_m same, manual] at pluggy_l
        cases pluggy_l
      refine ⟨pair.manual, pair.consta, ⟨l, mem_updateKey.mpr (.inr ⟨mem_l, l_other⟩), named,
        pluggy_l, rest⟩, ?_⟩
      intro outro mem_outro aponta'
      rcases mem_updateKey.mp mem_outro with ⟨o, o_mem, o_named, rfl⟩ | ⟨o_mem, _⟩
      · obtain rfl : b.id = c := by simpa [hliga] using aponta'
        exact absurd aponta (done.livre novo old_mem)
      · exact pair.unico outro o_mem aponta'
  rw [done.escrito]
  exact pares_updateKey ligado fun l _ _ => ⟨rfl, rfl, rfl, fun _ => rfl, fun _ same => ⟨same, rfl⟩⟩

end Leis

/-! ### The operations -/

section Operacoes

variable {db depois : LivroCaixa} {churchId id : Id}

/-- The key of the entries and the law of the pairs. -/
def LivroCaixa.Emparelhado (db : LivroCaixa) : Prop := db.EmOrdem ∧ db.ParesBemFormados

theorem emparelhado_inserirNova (inv : db.Emparelhado) {nova : Id → Lancamento}
    (named : ∀ k, (nova k).id = k) (solto : ∀ k, (nova k).reconciledWithId = none) :
    (db.inserirNova nova).Emparelhado := by
  unfold LivroCaixa.inserirNova
  split
  · exact inv
  · exact ⟨inv.1.append_fresh (named db.nextId), pares_append inv.2 (solto db.nextId)⟩

theorem emparelhado_criar {dto : CreateEntryDto} {agora : Instant} (inv : db.Emparelhado)
    (ok : db.criar churchId dto agora = .ok depois) : depois.Emparelhado := by
  unfold LivroCaixa.criar at ok
  simp only [bind_eq_ok_iff, pure_eq_ok_iff] at ok
  obtain ⟨_, _, _, _, rfl⟩ := ok
  exact ⟨inv.1.append_fresh rfl, pares_append inv.2 rfl⟩

theorem emparelhado_importar {transacoes : Except Failure (List TransacaoDoBanco)}
    {agora : Instant} (inv : db.Emparelhado)
    (ok : db.importar churchId transacoes agora = .ok depois) : depois.Emparelhado := by
  unfold LivroCaixa.importar at ok
  simp only [bind_eq_ok_iff, orFail_eq_ok_iff, pure_eq_ok_iff] at ok
  obtain ⟨integracao, _, lidas, _, rfl⟩ := ok
  refine List.foldlRecOn lidas _ (motive := LivroCaixa.Emparelhado) inv ?_
  exact fun atual inv t _ => emparelhado_inserirNova inv (fun _ => rfl) (fun _ => rfl)

theorem emparelhado_remover (inv : db.Emparelhado)
    (ok : db.remover churchId id = .ok depois) : depois.Emparelhado := by
  unfold LivroCaixa.remover at ok
  simp only [bind_eq_ok_iff, failIf_eq_ok_iff, pure_eq_ok_iff, exists_const] at ok
  obtain ⟨l, found, pluggy, rfl⟩ := ok
  obtain ⟨mem, rfl, _⟩ := exigir_ok found
  have manual : l.source = .manual := by
    cases source : l.source with
    | manual => rfl
    | pluggy => exact absurd source pluggy
  exact ⟨inv.1.filter _, pares_deleteKey inv.1 inv.2 mem manual⟩

theorem emparelhado_conciliar {bancoId manualId : Id} (inv : db.Emparelhado)
    (ok : db.conciliar churchId bancoId manualId = .ok depois) : depois.Emparelhado := by
  obtain ⟨b, m, done⟩ := conciliou_of_ok ok
  refine ⟨?_, done.pares inv.1 inv.2⟩
  rw [done.escrito]
  exact keyed_updateKey (keyed_updateKey inv.1 fun _ => rfl) fun _ => rfl

/-- The loop over the suggested pairs, wherever it stops. -/
theorem emparelhado_conciliarLinhas (linhas : List LinhaDaConciliacao) :
    ∀ {db : LivroCaixa}, db.Emparelhado →
      (LivroCaixa.conciliarLinhas churchId db linhas).Emparelhado := by
  induction linhas with
  | nil => exact fun inv => inv
  | cons linha linhas ih =>
      intro db inv
      unfold LivroCaixa.conciliarLinhas
      split
      · split
        · exact ih (emparelhado_conciliar inv ‹_›)
        · exact inv
      · exact ih inv

theorem emparelhado_conciliarSugeridos {relogio : Relogio} {de ate : Option Dia}
    (inv : db.Emparelhado)
    (ok : db.conciliarSugeridos churchId relogio de ate = .ok depois) : depois.Emparelhado := by
  unfold LivroCaixa.conciliarSugeridos at ok
  simp only [bind_eq_ok_iff, pure_eq_ok_iff] at ok
  obtain ⟨linhas, _, rfl⟩ := ok
  exact emparelhado_conciliarLinhas linhas inv

theorem emparelhado_desfazer (inv : db.Emparelhado)
    (ok : db.desfazer churchId id = .ok depois) : depois.Emparelhado := by
  unfold LivroCaixa.desfazer LivroCaixa.desligar at ok
  simp only [bind_eq_ok_iff] at ok
  obtain ⟨_, _, ok⟩ := ok
  obtain rfl := update_ok ok
  refine ⟨keyed_updateKey inv.1 fun _ => rfl, pares_updateKey inv.2 fun l _ _ => ?_⟩
  exact ⟨rfl, rfl, rfl, fun _ => rfl, fun _ aponta => nomatch aponta⟩

/-- A reconciled entry is refused before it is marked. -/
theorem emparelhado_marcarNaoConsta {naoConsta : Bool} {agora : Instant} (inv : db.Emparelhado)
    (ok : db.marcarNaoConsta churchId id naoConsta agora = .ok depois) : depois.Emparelhado := by
  unfold LivroCaixa.marcarNaoConsta at ok
  simp only [bind_eq_ok_iff, failIf_eq_ok_iff, exists_const, Option.not_isSome_iff_eq_none] at ok
  obtain ⟨m, found, _, solto, ok⟩ := ok
  obtain ⟨mem, rfl, _⟩ := exigir_ok found
  obtain rfl := update_ok ok
  refine ⟨keyed_updateKey inv.1 fun _ => rfl, pares_updateKey inv.2 fun l mem_l named => ?_⟩
  obtain rfl := inv.1.eq_of_key_eq mem_l mem named
  refine ⟨rfl, rfl, rfl, fun _ => rfl, fun b aponta => ?_⟩
  rw [show l.reconciledWithId = some b from aponta] at solto
  cases solto

/-! ### Editing -/

/-- What `atualizar` accepts, and what it writes. -/
structure EditouLancamento (db : LivroCaixa) (churchId id : Id) (dto : UpdateEntryDto)
    (l : Lancamento) (depois : LivroCaixa) : Prop where
  lancamento : l ∈ db.lancamentos ∧ l.id = id ∧ l.churchId = churchId
  importado : l.source = .pluggy → LivroCaixa.mexeuNoTravado l dto = false
  cabe : categoriaCabeNoTipo (dto.category.getD l.category) (dto.type.getD l.type)
  membro : ∀ userId, dto.userId = some (some userId) → db.ehMembro churchId userId
  escrito : depois =
    { db with lancamentos := updateKey Lancamento.id id (LivroCaixa.editar dto) db.lancamentos }

theorem atualizar_ok_iff {dto : UpdateEntryDto} (emOrdem : db.EmOrdem) :
    db.atualizar churchId id dto = .ok depois ↔
      ∃ l, EditouLancamento db churchId id dto l depois := by
  have tither : ((dto.userId.join.any fun userId => !db.ehMembro churchId userId) = true) ↔
      ¬ ∀ userId, dto.userId = some (some userId) → db.ehMembro churchId userId := by
    rcases came : dto.userId with _ | _ | userId <;> simp
  unfold LivroCaixa.atualizar LivroCaixa.conferirCategoria LivroCaixa.conferirDizimista
  simp only [bind_eq_ok_iff, failIf_eq_ok_iff, exists_const, tither, not_not, not_and,
    Bool.not_eq_true, Bool.not_eq_true', Bool.not_eq_false]
  constructor
  · rintro ⟨l, found, importado, cabe, membro, ok⟩
    exact ⟨l, exigir_ok found, importado, cabe, membro, update_ok ok⟩
  · rintro ⟨l, ⟨mem, named, church⟩, importado, cabe, membro, escrito⟩
    refine ⟨l, ?_, importado, cabe, membro, ?_⟩
    · rw [LivroCaixa.exigir, orFail_eq_ok_iff, ← named, ← church]
      exact doLivro?_of_mem emOrdem mem
    · rw [escrito]
      exact update_of_mem mem named

theorem editar_manual {dto : UpdateEntryDto} {l : Lancamento} (manual : l.source = .manual) :
    (LivroCaixa.editar dto l).type = dto.type.getD l.type := by
  simp [LivroCaixa.editar, manual]

/-- Edits write nothing else the pairs speak of. -/
theorem editar_mantem (dto : UpdateEntryDto) (l : Lancamento)
    (tipo : l.source = .manual → l.reconciledWithId.isSome → dto.type.getD l.type = l.type) :
    MantemOPar l (LivroCaixa.editar dto l) := by
  cases source : l.source with
  | manual =>
      refine ⟨?_, ?_, ?_, ?_, ?_⟩ <;> simp_all [LivroCaixa.editar]
  | pluggy =>
      refine ⟨?_, ?_, ?_, ?_, ?_⟩ <;> simp_all [LivroCaixa.editar]

/-- An edit keeps the pairs exactly when it does not change the type of a reconciled manual
entry. -/
theorem EditouLancamento.pares_iff {dto : UpdateEntryDto} {l : Lancamento} (inv : db.Emparelhado)
    (done : EditouLancamento db churchId id dto l depois) :
    depois.ParesBemFormados ↔
      (l.source = .manual → l.reconciledWithId.isSome → dto.type.getD l.type = l.type) := by
  obtain ⟨mem, rfl, church⟩ := done.lancamento
  rw [done.escrito]
  constructor
  · intro pares manual reconciled
    obtain ⟨b, aponta⟩ := Option.isSome_iff_exists.mp reconciled
    have before := inv.2 l mem b aponta
    obtain ⟨banco, mem_b, named, pluggy, _, tipo⟩ := before.banco
    have apart : banco.id ≠ l.id := by
      intro same
      rw [inv.1.eq_of_key_eq mem_b mem same, manual] at pluggy
      cases pluggy
    have after := pares (LivroCaixa.editar dto l) (mem_updateKey.mpr (.inl ⟨l, mem, rfl, rfl⟩)) b
      (by simp [LivroCaixa.editar, manual, aponta])
    obtain ⟨banco', mem_b', named', _, _, tipo'⟩ := after.banco
    -- the bank side is the same row, and the edit did not reach it
    rcases mem_updateKey.mp mem_b' with ⟨old, old_mem, old_named, rfl⟩ | ⟨mem_b', _⟩
    · refine absurd (named.trans ?_) apart
      rw [← named', inv.1.eq_of_key_eq old_mem mem old_named]
      simp [LivroCaixa.editar, manual]
    · rw [inv.1.eq_of_key_eq mem_b' mem_b (named'.trans named.symm), tipo,
        editar_manual manual] at tipo'
      exact tipo'.symm
  · intro kept
    refine pares_updateKey inv.2 fun row mem_row named => ?_
    obtain rfl := inv.1.eq_of_key_eq mem_row mem named
    exact editar_mantem dto row kept

end Operacoes

/-! ### Runs -/

section Runs

variable {db : LivroCaixa}

theorem LivroCaixa.agir_of_ok {depois : LivroCaixa} {acao : LivroCaixa.Acao}
    (ok : db.executar acao = .ok depois) : db.agir acao = depois := by
  simp only [LivroCaixa.agir, ok]

theorem LivroCaixa.agir_of_error {falha : Failure} {acao : LivroCaixa.Acao}
    (refused : db.executar acao = .error falha) : db.agir acao = db := by
  simp only [LivroCaixa.agir, refused]

/-- An operation other than an edit keeps both laws. -/
theorem emparelhado_agir_outra {acao : LivroCaixa.Acao} (inv : db.Emparelhado)
    (keep : ∀ depois, db.executar acao = .ok depois → depois.Emparelhado)
    (free : ¬ MudaTipoDoPar db acao) :
    (db.agir acao).EmOrdem ∧ ((db.agir acao).ParesBemFormados ↔ ¬ MudaTipoDoPar db acao) := by
  cases ok : db.executar acao with
  | error _ =>
      rw [LivroCaixa.agir_of_error ok]
      exact ⟨inv.1, iff_of_true inv.2 free⟩
  | ok depois =>
      rw [LivroCaixa.agir_of_ok ok]
      exact ⟨(keep depois ok).1, iff_of_true (keep depois ok).2 free⟩

section Edicao

variable {depois : LivroCaixa} {churchId id : Id} {dto : UpdateEntryDto}

theorem EditouLancamento.emOrdem {l : Lancamento} (inv : db.Emparelhado)
    (done : EditouLancamento db churchId id dto l depois) : depois.EmOrdem := by
  rw [done.escrito]
  refine keyed_updateKey inv.1 fun l => ?_
  cases source : l.source <;> simp [LivroCaixa.editar, source]

/-- The edits that change the type of a pair are accepted. -/
theorem not_mudaTipoDoPar_of_error {falha : Failure} (inv : db.Emparelhado)
    (refused : db.atualizar churchId id dto = .error falha) :
    ¬ MudaTipoDoPar db (.atualizar churchId id dto) := by
  rintro ⟨m, mem, named, church, manual, _, tipo, came, _, cabe, membro⟩
  have importado : m.source = .pluggy → LivroCaixa.mexeuNoTravado m dto = false := by
    rw [manual]
    exact fun pluggy => by cases pluggy
  obtain ⟨_, accepted⟩ : ∃ depois, db.atualizar churchId id dto = .ok depois :=
    ⟨_, (atualizar_ok_iff inv.1).mpr
      ⟨m, ⟨mem, named, church⟩, importado, by rwa [came], membro, rfl⟩⟩
  rw [refused] at accepted
  cases accepted

theorem EditouLancamento.mantemTipo_iff {l : Lancamento} (inv : db.Emparelhado)
    (done : EditouLancamento db churchId id dto l depois) :
    (l.source = .manual → l.reconciledWithId.isSome → dto.type.getD l.type = l.type) ↔
      ¬ MudaTipoDoPar db (.atualizar churchId id dto) := by
  obtain ⟨mem, named, church⟩ := done.lancamento
  constructor
  · rintro kept ⟨m, mem_m, named_m, _, manual, reconciled, tipo, came, other, _⟩
    obtain rfl := inv.1.eq_of_key_eq mem mem_m (named.trans named_m.symm)
    have same := kept manual reconciled
    rw [came] at same
    exact other same
  · intro free manual reconciled
    cases came : dto.type with
    | none => rfl
    | some tipo =>
        by_contra other
        have cabe : categoriaCabeNoTipo (dto.category.getD l.category) tipo := by
          simpa [came] using done.cabe
        exact free ⟨l, mem, named, church, manual, reconciled, tipo, came, other, cabe, done.membro⟩

end Edicao

/-- One operation: the pairs stay well formed exactly when it does not change the type of a
reconciled manual entry. -/
theorem emparelhado_agir (inv : db.Emparelhado) (acao : LivroCaixa.Acao) :
    (db.agir acao).EmOrdem ∧ ((db.agir acao).ParesBemFormados ↔ ¬ MudaTipoDoPar db acao) := by
  have outra := @emparelhado_agir_outra db acao inv
  cases acao with
  | atualizar churchId id dto =>
      cases ok : db.atualizar churchId id dto with
      | error falha =>
          have parado : db.agir (.atualizar churchId id dto) = db := LivroCaixa.agir_of_error ok
          rw [parado]
          exact ⟨inv.1, iff_of_true inv.2 (not_mudaTipoDoPar_of_error inv ok)⟩
      | ok depois =>
          have editado : db.agir (.atualizar churchId id dto) = depois := LivroCaixa.agir_of_ok ok
          rw [editado]
          obtain ⟨l, done⟩ := (atualizar_ok_iff inv.1).mp ok
          exact ⟨done.emOrdem inv, (done.pares_iff inv).trans (done.mantemTipo_iff inv)⟩
  | criar churchId dto agora => exact outra (fun _ ok => emparelhado_criar inv ok) not_false
  | remover churchId id => exact outra (fun _ ok => emparelhado_remover inv ok) not_false
  | importar churchId transacoes agora =>
      exact outra (fun _ ok => emparelhado_importar inv ok) not_false
  | conciliar churchId bancoId manualId =>
      exact outra (fun _ ok => emparelhado_conciliar inv ok) not_false
  | desfazer churchId manualId => exact outra (fun _ ok => emparelhado_desfazer inv ok) not_false
  | conciliarSugeridos churchId relogio de ate =>
      exact outra (fun _ ok => emparelhado_conciliarSugeridos inv ok) not_false
  | marcarNaoConsta churchId manualId naoConsta agora =>
      exact outra (fun _ ok => emparelhado_marcarNaoConsta inv ok) not_false

end Runs

/-- In a run of operations on the cash book, the reconciled pairs are well formed in every state
reached exactly when no operation edits a reconciled manual entry to another type. -/
theorem paresBemFormados_run_iff {db : LivroCaixa} (emOrdem : db.EmOrdem)
    (pares : db.ParesBemFormados) (acoes : List LivroCaixa.Acao) :
    Always LivroCaixa.agir LivroCaixa.ParesBemFormados db acoes ↔
      EachStep LivroCaixa.agir (fun db acao => ¬ MudaTipoDoPar db acao) db acoes :=
  always_iff_eachStep_of_invariant (I := LivroCaixa.Emparelhado) (fun _ inv => inv.2)
    (fun _ acao inv keep => ⟨(emparelhado_agir inv acao).1, (emparelhado_agir inv acao).2.mpr keep⟩)
    (fun _ acao inv after => (emparelhado_agir inv acao).2.mp after) ⟨emOrdem, pares⟩

/-! ### An offering that becomes an expense -/

namespace OfertaDoBanco

/-- A church with one bank, whose accounts are not split. -/
def vazio : LivroCaixa where
  lancamentos := []
  membros := []
  integracoes := fun _ => some ⟨false, fun _ => none, [9]⟩
  alocacoes := []
  nextId := 0

def pix : TransacaoDoBanco where
  id := "t"
  date := 20_000
  description := "Pix"
  amount := 5000
  type := .credit
  category := none
  paymentMethod := none
  payerName := none
  payerDocument := none
  conta := "Banco"
  itemId := 9

def oferta : CreateEntryDto := ⟨.income, .offering, 5000, 20_000, "Oferta", none, none⟩

/-- The type and the category of an entry change, and nothing else. -/
def viraDespesa : UpdateEntryDto :=
  ⟨some .expense, some .otherExpense, none, none, none, none, none⟩

/-- A deposit is imported, typed as an offering, reconciled, and then the offering is edited. -/
def editada : List LivroCaixa.Acao :=
  [.importar 1 (.ok [pix]) 0, .criar 1 oferta 1, .conciliar 1 0 1, .atualizar 1 1 viraDespesa]

end OfertaDoBanco

theorem emOrdem_vazio : OfertaDoBanco.vazio.EmOrdem := Keyed.nil

theorem pares_vazio : OfertaDoBanco.vazio.ParesBemFormados := by
  intro m mem
  cases mem

/-- The expense is reconciled with an income of the bank. -/
theorem parTrocado_editada :
    ¬ (runFrom LivroCaixa.agir OfertaDoBanco.vazio OfertaDoBanco.editada).ParesBemFormados := by
  intro law
  have despesa : ∃ m ∈ (runFrom LivroCaixa.agir OfertaDoBanco.vazio
      OfertaDoBanco.editada).lancamentos, m.reconciledWithId = some 0 ∧ m.type = .expense := by
    decide +kernel
  have entrada : ∀ l ∈ (runFrom LivroCaixa.agir OfertaDoBanco.vazio
      OfertaDoBanco.editada).lancamentos, l.id = 0 → l.type = .income := by
    decide +kernel
  obtain ⟨m, mem, aponta, expense⟩ := despesa
  obtain ⟨b, mem_b, named, _, _, tipo⟩ := (law m mem 0 aponta).banco
  rw [entrada b mem_b named, expense] at tipo
  cases tipo

theorem not_paresBemFormados_editada :
    ¬ Always LivroCaixa.agir LivroCaixa.ParesBemFormados OfertaDoBanco.vazio
      OfertaDoBanco.editada :=
  fun always => parTrocado_editada always.last

/-- In that run an edition changes the type of an entry that is reconciled. -/
theorem paresBemFormados_run_iff_editada :
    ¬ EachStep LivroCaixa.agir (fun db acao => ¬ MudaTipoDoPar db acao) OfertaDoBanco.vazio
      OfertaDoBanco.editada := by
  intro mantem
  have always := (paresBemFormados_run_iff emOrdem_vazio pares_vazio _).mpr mantem
  exact parTrocado_editada always.last

end IccvBackend
