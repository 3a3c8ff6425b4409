/-
Module: IccvBackend.Proofs.Reconciling
Purpose: When a reconciliation that succeeded stays until it is undone, whatever other calls are in
  flight.
Trusted boundary: none
Main exports: ConciliacaoDuravel, EscreveSolto, conciliacaoDuravel_run, not_conciliacaoDuravel_duas
-/
import IccvBackend.Treasury.Reconciling
import IccvBackend.Proofs.CashBook
import IccvBackend.Lib.Tasks

namespace IccvBackend

open Lib

/-- The manual entry is there and reconciled with the bank one. -/
def Ligado (rows : List Lancamento) (m b : Id) : Prop :=
  ∃ l ∈ rows, l.id = m ∧ l.reconciledWithId = some b

/-- What a successful reconciliation is worth: the entry stays reconciled as the call said until it
is undone or removed; no two of them share an entry; and a call that was refused changed none. -/
structure ConciliacaoDuravel (sr : CaixaEmCurso × RegistroDoCaixa) : Prop where
  fica : ∀ k c b m, sr.1.chamadas[k]? = some c → c.conciliou = some (b, m) →
    k ∉ sr.2.desfeitas → Ligado sr.1.db.lancamentos m b
  uma : ∀ k k' c c' b b' m m', sr.1.chamadas[k]? = some c → sr.1.chamadas[k']? = some c' →
    c.conciliou = some (b, m) → c'.conciliou = some (b', m') → k ∉ sr.2.desfeitas →
      k' ∉ sr.2.desfeitas → k ≠ k' → b ≠ b' ∧ m ≠ m'
  recusada : ∀ k c, sr.1.chamadas[k]? = some c → c.recusada → k ∉ sr.2.mudaram

/-- The manual entry a `conciliar` writes next. -/
def ChamadaDoCaixa.aLigar : ChamadaDoCaixa → Option Id
  | .conciliar _ _ _ (.ligar _ manual) => some manual.id
  | _ => none

/-- The manual entry a `conciliar` writes next is not reconciled: no other call reconciled it since
this one read it. -/
def EscreveSolto (s : CaixaEmCurso) : CaixaEmCurso.Acao → Prop
  | .avancar k => ∀ manualId ∈ s.chamadas[k]?.bind ChamadaDoCaixa.aLigar,
      ∀ l ∈ s.db.lancamentos, l.id = manualId → l.reconciledWithId = none
  | _ => True

instance (s : CaixaEmCurso) : ∀ acao, Decidable (EscreveSolto s acao)
  | .avancar k => inferInstanceAs (Decidable (∀ manualId ∈ s.chamadas[k]?.bind _, _))
  | .conciliar _ _ _ | .desfazer _ _ | .remover _ _ | .ler _ _ => inferInstanceAs (Decidable True)

/-! ### Rows through the statements -/

/-- Rows keep their key and source, and bank rows stay. -/
structure Evolui (rows rows' : List Lancamento) : Prop where
  vem : ∀ l' ∈ rows', ∃ l ∈ rows, l.id = l'.id ∧ l.source = l'.source
  fica : ∀ l ∈ rows, l.source = .pluggy → ∃ l' ∈ rows', l'.id = l.id ∧ l'.source = .pluggy

theorem Evolui.refl (rows : List Lancamento) : Evolui rows rows :=
  ⟨fun l mem => ⟨l, mem, rfl, rfl⟩, fun l mem pluggy => ⟨l, mem, rfl, pluggy⟩⟩

section Linhas

variable {db novo : LivroCaixa} {rows : List Lancamento} {id m b k : Id}
  {f : Lancamento → Lancamento}

theorem evolui_updateKey (same_id : ∀ l, (f l).id = l.id)
    (same_source : ∀ l, (f l).source = l.source) :
    Evolui rows (updateKey Lancamento.id id f rows) := by
  constructor
  · intro l' mem
    rcases mem_updateKey.mp mem with ⟨old, old_mem, _, rfl⟩ | ⟨old_mem, _⟩
    · exact ⟨old, old_mem, (same_id old).symm, (same_source old).symm⟩
    · exact ⟨l', old_mem, rfl, rfl⟩
  · intro l mem pluggy
    by_cases here : l.id = id
    · exact ⟨f l, mem_updateKey.mpr (.inl ⟨l, mem, here, rfl⟩), same_id l,
        (same_source l).trans pluggy⟩
    · exact ⟨l, mem_updateKey.mpr (.inr ⟨mem, here⟩), rfl, pluggy⟩

theorem evolui_deleteKey (manual : ∀ l ∈ rows, l.id = id → l.source = .manual) :
    Evolui rows (deleteKey Lancamento.id id rows) := by
  constructor
  · exact fun l' mem => ⟨l', (mem_deleteKey.mp mem).1, rfl, rfl⟩
  · intro l mem pluggy
    refine ⟨l, mem_deleteKey.mpr ⟨mem, fun here => ?_⟩, rfl, pluggy⟩
    rw [manual l mem here] at pluggy
    cases pluggy

/-- An update that leaves the reconciliations alone. -/
theorem ligado_updateKey (same_id : ∀ l, (f l).id = l.id)
    (same_par : ∀ l, (f l).reconciledWithId = l.reconciledWithId) :
    Ligado (updateKey Lancamento.id id f rows) m b ↔ Ligado rows m b := by
  constructor
  · rintro ⟨l, mem, named, aponta⟩
    rcases mem_updateKey.mp mem with ⟨old, old_mem, _, rfl⟩ | ⟨old_mem, _⟩
    · exact ⟨old, old_mem, (same_id old).symm.trans named, (same_par old).symm.trans aponta⟩
    · exact ⟨l, old_mem, named, aponta⟩
  · rintro ⟨l, mem, named, aponta⟩
    by_cases here : l.id = id
    · exact ⟨f l, mem_updateKey.mpr (.inl ⟨l, mem, here, rfl⟩), (same_id l).trans named,
        (same_par l).trans aponta⟩
    · exact ⟨l, mem_updateKey.mpr (.inr ⟨mem, here⟩), named, aponta⟩

/-- The other entries keep their reconciliation through an update. -/
theorem ligado_updateKey_of_ne (other : m ≠ id) (ligado : Ligado rows m b) :
    Ligado (updateKey Lancamento.id id f rows) m b := by
  obtain ⟨l, mem, named, aponta⟩ := ligado
  exact ⟨l, mem_updateKey.mpr (.inr ⟨mem, fun here => other (named.symm.trans here)⟩),
    named, aponta⟩

theorem ligado_deleteKey_of_ne (other : m ≠ id) (ligado : Ligado rows m b) :
    Ligado (deleteKey Lancamento.id id rows) m b := by
  obtain ⟨l, mem, named, aponta⟩ := ligado
  exact ⟨l, mem_deleteKey.mpr ⟨mem, fun here => other (named.symm.trans here)⟩, named, aponta⟩

theorem exists_of_update_ok (ok : db.update id f = .ok novo) : ∃ l ∈ db.lancamentos, l.id = id := by
  unfold LivroCaixa.update at ok
  simp only [bind_eq_ok_iff, orFail_eq_ok_iff] at ok
  obtain ⟨l, found, _⟩ := ok
  exact ⟨l, lookup_mem found, lookup_key found⟩

/-- A write of a pair: the index on the bank side found no other entry. -/
theorem ligar_ok (ok : db.ligar m b = .ok novo) :
    (∀ l ∈ db.lancamentos, l.reconciledWithId = some b → l.id = m) ∧
      (∃ l ∈ db.lancamentos, l.id = m) ∧
      novo.lancamentos = updateKey Lancamento.id m
        (fun l => { l with reconciledWithId := some b, notInBankAt := none }) db.lancamentos ∧
      novo.nextId = db.nextId := by
  unfold LivroCaixa.ligar at ok
  simp only [bind_eq_ok_iff, failIf_eq_ok_iff, exists_const] at ok
  obtain ⟨livre, ok⟩ := ok
  refine ⟨?_, exists_of_update_ok ok, by rw [update_ok ok], by rw [update_ok ok]⟩
  intro l mem aponta
  by_contra other
  exact livre (List.any_eq_true.mpr ⟨l, mem, by simp [aponta, other]⟩)

end Linhas

/-! ### What a call knows -/

/-- What a call in flight relies on: the entries it read keep their source, and the bank one
stays. -/
def ChamadaDoCaixa.Certa (rows : List Lancamento) : ChamadaDoCaixa → Prop
  | .conciliar _ bancoId manualId (.lendo lido) =>
      (∀ b, lido.banco = some (some b) → b.id = bancoId ∧
        (b.source = .pluggy → ∃ l ∈ rows, l.id = b.id ∧ l.source = .pluggy)) ∧
      ∀ m, lido.manual = some (some m) → m.id = manualId ∧
        ∀ l ∈ rows, l.id = m.id → l.source = m.source
  | .conciliar _ bancoId manualId (.ligar banco manual) =>
      (banco.id = bancoId ∧ ∃ l ∈ rows, l.id = banco.id ∧ l.source = .pluggy) ∧
        manual.id = manualId ∧ ∀ l ∈ rows, l.id = manual.id → l.source = .manual
  | .conciliar _ _ _ (.herdar banco _) => ∃ l ∈ rows, l.id = banco.id ∧ l.source = .pluggy
  | .remover _ id .escrever => ∀ l ∈ rows, l.id = id → l.source = .manual
  | _ => True

theorem Evolui.source {rows rows' : List Lancamento} (evolui : Evolui rows rows') {id : Id}
    {source : FinancialEntrySource} (old : ∀ l ∈ rows, l.id = id → l.source = source) :
    ∀ l ∈ rows', l.id = id → l.source = source := by
  intro l mem named
  obtain ⟨antes, mem_antes, same, same_source⟩ := evolui.vem l mem
  exact same_source.symm.trans (old antes mem_antes (same.trans named))

theorem Evolui.banco {rows rows' : List Lancamento} (evolui : Evolui rows rows') {id : Id}
    (old : ∃ l ∈ rows, l.id = id ∧ l.source = .pluggy) :
    ∃ l ∈ rows', l.id = id ∧ l.source = .pluggy := by
  obtain ⟨l, mem, rfl, pluggy⟩ := old
  exact evolui.fica l mem pluggy

theorem ChamadaDoCaixa.Certa.evolui {rows rows' : List Lancamento} (evolui : Evolui rows rows') :
    ∀ {c : ChamadaDoCaixa}, c.Certa rows → c.Certa rows'
  | .conciliar _ _ _ (.lendo _), certa =>
      ⟨fun b lido => ⟨(certa.1 b lido).1, fun pluggy => evolui.banco ((certa.1 b lido).2 pluggy)⟩,
        fun m lido => ⟨(certa.2 m lido).1, evolui.source (certa.2 m lido).2⟩⟩
  | .conciliar _ _ _ (.ligar _ _), certa =>
      ⟨⟨certa.1.1, evolui.banco certa.1.2⟩, certa.2.1, evolui.source certa.2.2⟩
  | .conciliar _ _ _ (.herdar _ _), certa => evolui.banco certa
  | .conciliar _ _ _ (.fim _), _ => trivial
  | .desfazer _ _ .ler, _ => trivial
  | .desfazer _ _ .escrever, _ => trivial
  | .desfazer _ _ (.fim _), _ => trivial
  | .remover _ _ .ler, _ => trivial
  | .remover _ _ .escrever, certa => evolui.source certa
  | .remover _ _ (.fim _), _ => trivial

section Chamadas

variable {db : LivroCaixa}

theorem certa_ler (emOrdem : db.EmOrdem) (qual : LeituraDoPar) :
    ∀ {c : ChamadaDoCaixa}, c.Certa db.lancamentos → (c.ler db qual).Certa db.lancamentos
  | .conciliar churchId bancoId manualId (.lendo lido), certa => by
      cases qual with
      | banco =>
          refine ⟨fun b read => ?_, certa.2⟩
          obtain ⟨mem, named, _⟩ := doLivro?_some (Option.some.inj read)
          exact ⟨named, fun pluggy => ⟨b, mem, rfl, pluggy⟩⟩
      | reconciledBy =>
          simp only [ChamadaDoCaixa.ler]
          split <;> exact certa
      | manual =>
          refine ⟨certa.1, fun m read => ?_⟩
          obtain ⟨mem, named, _⟩ := doLivro?_some (Option.some.inj read)
          exact ⟨named, fun l mem_l same => by rw [emOrdem.eq_of_key_eq mem_l mem same]⟩
  | .conciliar _ _ _ (.ligar _ _), certa => certa
  | .conciliar _ _ _ (.herdar _ _), certa => certa
  | .conciliar _ _ _ (.fim _), certa => certa
  | .desfazer _ _ _, certa => certa
  | .remover _ _ _, certa => certa

/-- Reading changes nothing that is remembered of a call. -/
theorem escreveu_ler (qual : LeituraDoPar) (c : ChamadaDoCaixa) :
    (c.ler db qual).escreveu = c.escreveu ∧ (c.ler db qual).conciliou = c.conciliou ∧
      (c.ler db qual).recusada = c.recusada := by
  unfold ChamadaDoCaixa.ler
  split
  · cases qual with
    | banco => exact ⟨rfl, rfl, rfl⟩
    | manual => exact ⟨rfl, rfl, rfl⟩
    | reconciledBy => dsimp only; split <;> exact ⟨rfl, rfl, rfl⟩
  · exact ⟨rfl, rfl, rfl⟩

/-- What one statement of a call does to the reconciliations: nothing, or its pair is written, or an
entry is undone or removed. -/
inductive EfeitoNosPares (db : LivroCaixa)
    (c : ChamadaDoCaixa) : LivroCaixa × ChamadaDoCaixa → Prop where
  | nada {novo : LivroCaixa} {c' : ChamadaDoCaixa}
      (ligados : ∀ m b, Ligado novo.lancamentos m b ↔ Ligado db.lancamentos m b)
      (escreveu : c'.escreveu = c.escreveu) (desfez : c.desfez c' = none)
      (mudou : novo.lancamentos ≠ db.lancamentos → c.escreveu.isSome) :
      EfeitoNosPares db c (novo, c')
  | ligou {novo : LivroCaixa} {churchId : Id} {banco manual : Lancamento}
      (fase : c = .conciliar churchId banco.id manual.id (.ligar banco manual))
      (livre : ∀ l ∈ db.lancamentos, l.reconciledWithId = some banco.id → l.id = manual.id)
      (outros : ∀ m b, m ≠ manual.id → Ligado db.lancamentos m b → Ligado novo.lancamentos m b)
      (ligado : Ligado novo.lancamentos manual.id banco.id) :
      EfeitoNosPares db c (novo, .conciliar churchId banco.id manual.id (.herdar banco manual))
  | desfez {novo : LivroCaixa} {c' : ChamadaDoCaixa} {manualId : Id}
      (desfez : c.desfez c' = some manualId) (nunca : c.escreveu = none ∧ c'.escreveu = none)
      (certa : c'.recusada = false)
      (outros : ∀ m b, m ≠ manualId → Ligado db.lancamentos m b → Ligado novo.lancamentos m b) :
      EfeitoNosPares db c (novo, c')

/-- What one statement of a call leaves: rows with their keys and sources, a call that still knows
what it relies on, and its effect on the reconciliations. -/
structure PassoDaChamada (db : LivroCaixa) (c : ChamadaDoCaixa)
    (r : LivroCaixa × ChamadaDoCaixa) : Prop where
  evolui : Evolui db.lancamentos r.1.lancamentos
  emOrdem : r.1.EmOrdem
  certa : r.2.Certa r.1.lancamentos
  efeito : EfeitoNosPares db c r

/-- A statement that writes nothing. -/
theorem passo_leitura (emOrdem : db.EmOrdem) {c c' : ChamadaDoCaixa}
    (certa : c'.Certa db.lancamentos) (escreveu : c'.escreveu = c.escreveu)
    (desfez : c.desfez c' = none) : PassoDaChamada db c (db, c') :=
  ⟨Evolui.refl _, emOrdem, certa, .nada (fun _ _ => Iff.rfl) escreveu desfez (absurd rfl)⟩

theorem passo_lendo (emOrdem : db.EmOrdem) {churchId bancoId manualId : Id} {lido : LeiturasDoPar}
    (certa : (ChamadaDoCaixa.conciliar churchId bancoId manualId (.lendo lido)).Certa
      db.lancamentos) :
    PassoDaChamada db (.conciliar churchId bancoId manualId (.lendo lido))
      ((ChamadaDoCaixa.conciliar churchId bancoId manualId (.lendo lido)).avancar db) := by
  simp only [ChamadaDoCaixa.avancar, ChamadaDoCaixa.avancarConciliar]
  split
  · rename_i banco reconciledBy manual leuBanco leuPar leuManual
    cases checked : LivroCaixa.conferirPar banco manual reconciledBy with
    | error e => exact passo_leitura emOrdem trivial rfl rfl
    | ok par =>
        obtain ⟨b, m⟩ := par
        obtain ⟨rfl, rfl, pluggy, source, _⟩ := conferirPar_ok checked
        obtain ⟨named, stays⟩ := certa.1 b leuBanco
        obtain ⟨named', keeps⟩ := certa.2 m leuManual
        refine passo_leitura emOrdem ⟨⟨named, stays pluggy⟩, named', ?_⟩ rfl rfl
        exact fun l mem same => (keeps l mem same).trans source
  · exact passo_leitura emOrdem certa rfl rfl

theorem passo_ligar (emOrdem : db.EmOrdem) {churchId bancoId manualId : Id}
    {banco manual : Lancamento}
    (certa : (ChamadaDoCaixa.conciliar churchId bancoId manualId (.ligar banco manual)).Certa
      db.lancamentos) :
    PassoDaChamada db (.conciliar churchId bancoId manualId (.ligar banco manual))
      ((ChamadaDoCaixa.conciliar churchId bancoId manualId (.ligar banco manual)).avancar db) := by
  obtain ⟨⟨rfl, stays⟩, rfl, _⟩ := certa
  simp only [ChamadaDoCaixa.avancar, ChamadaDoCaixa.avancarConciliar, ChamadaDoCaixa.escrever]
  cases ok : db.ligar manual.id banco.id with
  | error e => exact passo_leitura emOrdem trivial rfl rfl
  | ok novo =>
      obtain ⟨livre, ⟨l, mem, named⟩, rows, next⟩ := ligar_ok ok
      have evolui : Evolui db.lancamentos novo.lancamentos := by
        rw [rows]
        exact evolui_updateKey (fun _ => rfl) fun _ => rfl
      refine ⟨evolui, ?_, evolui.banco stays, .ligou rfl livre ?_ ?_⟩
      · simp only [LivroCaixa.EmOrdem, rows, next]
        exact keyed_updateKey emOrdem fun _ => rfl
      · intro m b other ligado
        rw [rows]
        exact ligado_updateKey_of_ne other ligado
      · rw [rows]
        exact ⟨_, mem_updateKey.mpr (.inl ⟨l, mem, named, rfl⟩), named, rfl⟩

theorem passo_herdar (emOrdem : db.EmOrdem) {churchId bancoId manualId : Id}
    {banco manual : Lancamento}
    (certa : (ChamadaDoCaixa.conciliar churchId bancoId manualId (.herdar banco manual)).Certa
      db.lancamentos) :
    PassoDaChamada db (.conciliar churchId bancoId manualId (.herdar banco manual))
      ((ChamadaDoCaixa.conciliar churchId bancoId manualId (.herdar banco manual)).avancar db) := by
  obtain ⟨l, mem, named, _⟩ := certa
  simp only [ChamadaDoCaixa.avancar, ChamadaDoCaixa.avancarConciliar, ChamadaDoCaixa.escrever,
    LivroCaixa.herdar, update_of_mem mem named]
  refine ⟨evolui_updateKey (fun _ => rfl) fun _ => rfl, keyed_updateKey emOrdem fun _ => rfl,
    trivial, .nada (fun m b => ligado_updateKey (fun _ => rfl) fun _ => rfl) rfl rfl fun _ => rfl⟩

theorem passo_desfazer (emOrdem : db.EmOrdem) {churchId manualId : Id} :
    PassoDaChamada db (.desfazer churchId manualId .escrever)
      ((ChamadaDoCaixa.desfazer churchId manualId .escrever).avancar db) := by
  simp only [ChamadaDoCaixa.avancar, ChamadaDoCaixa.avancarDesfazer, ChamadaDoCaixa.escrever,
    LivroCaixa.desligar]
  cases ok : db.update manualId fun m => { m with reconciledWithId := none } with
  | error e => exact passo_leitura emOrdem trivial rfl rfl
  | ok novo =>
      obtain rfl := update_ok ok
      exact ⟨evolui_updateKey (fun _ => rfl) fun _ => rfl, keyed_updateKey emOrdem fun _ => rfl,
        trivial, .desfez rfl ⟨rfl, rfl⟩ rfl fun m b => ligado_updateKey_of_ne⟩

theorem passo_remover (emOrdem : db.EmOrdem) {churchId id : Id}
    (certa : (ChamadaDoCaixa.remover churchId id .escrever).Certa db.lancamentos) :
    PassoDaChamada db (.remover churchId id .escrever)
      ((ChamadaDoCaixa.remover churchId id .escrever).avancar db) := by
  simp only [ChamadaDoCaixa.avancar, ChamadaDoCaixa.avancarRemover, ChamadaDoCaixa.escrever]
  cases found : lookup Lancamento.id id db.lancamentos with
  | none => exact passo_leitura emOrdem trivial rfl rfl
  | some l =>
      exact ⟨evolui_deleteKey certa, emOrdem.filter _, trivial,
        .desfez rfl ⟨rfl, rfl⟩ rfl fun m b => ligado_deleteKey_of_ne⟩

/-- One statement of a call, by what it runs next. -/
theorem passo_avancar (emOrdem : db.EmOrdem) :
    ∀ {c : ChamadaDoCaixa}, c.Certa db.lancamentos → PassoDaChamada db c (c.avancar db)
  | .conciliar _ _ _ (.lendo _), certa => passo_lendo emOrdem certa
  | .conciliar _ _ _ (.ligar _ _), certa => passo_ligar emOrdem certa
  | .conciliar _ _ _ (.herdar _ _), certa => passo_herdar emOrdem certa
  | .conciliar _ _ _ (.fim _), certa => passo_leitura emOrdem certa rfl rfl
  | .desfazer churchId manualId .ler, certa => by
      simp only [ChamadaDoCaixa.avancar, ChamadaDoCaixa.avancarDesfazer]
      split <;> exact passo_leitura emOrdem trivial rfl rfl
  | .desfazer _ _ .escrever, _ => passo_desfazer emOrdem
  | .desfazer _ _ (.fim _), certa => passo_leitura emOrdem certa rfl rfl
  | .remover churchId id .ler, certa => by
      simp only [ChamadaDoCaixa.avancar, ChamadaDoCaixa.avancarRemover]
      cases ok : db.remover churchId id with
      | error e => exact passo_leitura emOrdem trivial rfl rfl
      | ok novo =>
          refine passo_leitura emOrdem ?_ rfl rfl
          unfold LivroCaixa.remover at ok
          simp only [bind_eq_ok_iff, failIf_eq_ok_iff, exists_const] at ok
          obtain ⟨l, found, pluggy, _⟩ := ok
          obtain ⟨mem, named, _⟩ := exigir_ok found
          intro outro mem_outro same
          rw [emOrdem.eq_of_key_eq mem_outro mem (same.trans named.symm)]
          cases source : l.source with
          | manual => rfl
          | pluggy => exact absurd source pluggy
  | .remover _ _ .escrever, certa => passo_remover emOrdem certa
  | .remover _ _ (.fim _), certa => passo_leitura emOrdem certa rfl rfl

end Chamadas

/-! ### Several calls -/

/-- The call is a `conciliar`. -/
def ChamadaDoCaixa.concilia : ChamadaDoCaixa → Bool
  | .conciliar _ _ _ _ => true
  | _ => false

/-- The keys and what the calls rely on; every pair written and not undone is in the rows, with both
entries to itself; and only a call that wrote its pair has changed an entry, of those that
reconcile. -/
structure CaixaEmCurso.EmDia (sr : CaixaEmCurso × RegistroDoCaixa) : Prop where
  emOrdem : sr.1.db.EmOrdem
  certas : ∀ (k : Nat) (c : ChamadaDoCaixa), sr.1.chamadas[k]? = some c →
    c.Certa sr.1.db.lancamentos
  ligadas : ∀ k c b m, sr.1.chamadas[k]? = some c → c.escreveu = some (b, m) →
    k ∉ sr.2.desfeitas → Ligado sr.1.db.lancamentos m b
  distintas : ∀ k k' c c' b b' m m', sr.1.chamadas[k]? = some c → sr.1.chamadas[k']? = some c' →
    c.escreveu = some (b, m) → c'.escreveu = some (b', m') → k ∉ sr.2.desfeitas →
      k' ∉ sr.2.desfeitas → k ≠ k' → b ≠ b' ∧ m ≠ m'
  mudaram : ∀ k ∈ sr.2.mudaram, ∃ c, sr.1.chamadas[k]? = some c ∧
    (c.concilia → c.escreveu.isSome)

section EmCurso

variable {s : CaixaEmCurso} {r : RegistroDoCaixa} {db : LivroCaixa} {c c' : ChamadaDoCaixa}

theorem concilia_avancar (db : LivroCaixa) (c : ChamadaDoCaixa) :
    (c.avancar db).2.concilia = c.concilia := by
  cases c <;> rfl

theorem concilia_ler (qual : LeituraDoPar) (c : ChamadaDoCaixa) :
    (c.ler db qual).concilia = c.concilia := by
  unfold ChamadaDoCaixa.ler
  split
  · cases qual with
    | banco => rfl
    | manual => rfl
    | reconciledBy => dsimp only; split <;> rfl
  · rfl

theorem escreveu_of_conciliou {par : Id × Id} (ok : c.conciliou = some par) :
    c.escreveu = some par := by
  unfold ChamadaDoCaixa.conciliou at ok
  split at ok
  · exact ok
  · cases ok

theorem of_recusada (recusada : c.recusada) : c.concilia ∧ c.escreveu = none := by
  unfold ChamadaDoCaixa.recusada at recusada
  split at recusada
  · exact ⟨rfl, rfl⟩
  · cases recusada

theorem concilia_of_desfez {manualId : Id} (desfez : c.desfez c' = some manualId) :
    c.concilia = false := by
  unfold ChamadaDoCaixa.desfez at desfez
  split at desfez
  · rfl
  · rfl
  · cases desfez

/-- What holds in every state says what a successful reconciliation is worth. -/
theorem CaixaEmCurso.EmDia.duravel {sr : CaixaEmCurso × RegistroDoCaixa}
    (emDia : CaixaEmCurso.EmDia sr) : ConciliacaoDuravel sr where
  fica k c b m found ok := emDia.ligadas k c b m found (escreveu_of_conciliou ok)
  uma k k' c c' b b' m m' found found' ok ok' :=
    emDia.distintas k k' c c' b b' m m' found found' (escreveu_of_conciliou ok)
      (escreveu_of_conciliou ok')
  recusada k c found recusada mem := by
    obtain ⟨c', found', wrote⟩ := emDia.mudaram k mem
    obtain rfl := Option.some.inj (found.symm.trans found')
    obtain ⟨concilia, escreveu⟩ := of_recusada recusada
    rw [escreveu] at wrote
    cases wrote concilia

/-- A call begins. -/
theorem emDia_iniciar (emDia : CaixaEmCurso.EmDia (s, r)) (certa : c.Certa s.db.lancamentos)
    (nova : c.escreveu = none) : CaixaEmCurso.EmDia (s.iniciar c, r) := by
  refine ⟨emDia.emOrdem, ?_, ?_, ?_, ?_⟩
  · intro j d found
    rcases getElem?_begun found with old | ⟨_, rfl⟩
    · exact emDia.certas j d old
    · exact certa
  · intro j d b m found wrote
    rcases getElem?_begun found with old | ⟨_, rfl⟩
    · exact emDia.ligadas j d b m old wrote
    · rw [nova] at wrote
      cases wrote
  · intro j j' d d' b b' m m' found found' wrote wrote'
    rcases getElem?_begun found with old | ⟨_, rfl⟩
    · rcases getElem?_begun found' with old' | ⟨_, rfl⟩
      · exact emDia.distintas j j' d d' b b' m m' old old' wrote wrote'
      · rw [nova] at wrote'
        cases wrote'
    · rw [nova] at wrote
      cases wrote
  · intro j mem
    obtain ⟨d, found, wrote⟩ := emDia.mudaram j mem
    refine ⟨d, ?_, wrote⟩
    have inside := (List.getElem?_eq_some_iff.mp found).1
    exact (List.getElem?_append_left inside).trans found

/-- Where a call moved and wrote what it had written, each call wrote what it had written. -/
theorem escreveu_moved {k : Nat} (found : s.chamadas[k]? = some c)
    (escreveu : c'.escreveu = c.escreveu) {j : Nat} {d : ChamadaDoCaixa}
    (found_d : (s.chamadas.set k c')[j]? = some d) :
    ∃ old, s.chamadas[j]? = some old ∧ d.escreveu = old.escreveu := by
  rcases getElem?_moved found_d with ⟨rfl, rfl⟩ | ⟨_, old⟩
  · exact ⟨c, found, escreveu⟩
  · exact ⟨d, old, rfl⟩

/-- The marks of the calls that changed the book, after a call moved. -/
theorem mudaram_moved (emDia : CaixaEmCurso.EmDia (s, r)) {k : Nat}
    (found : s.chamadas[k]? = some c) {marcas : List Nat}
    (known : ∀ j ∈ marcas, j ≠ k → j ∈ r.mudaram)
    (own : k ∈ marcas → (c'.concilia → c'.escreveu.isSome)) :
    ∀ j ∈ marcas, ∃ d, (s.chamadas.set k c')[j]? = some d ∧
      (d.concilia → d.escreveu.isSome) := by
  intro j mem
  by_cases here : j = k
  · subst here
    exact ⟨c', getElem?_moved_self found, own mem⟩
  · obtain ⟨d, found_d, wrote⟩ := emDia.mudaram j (known j mem here)
    exact ⟨d, (List.getElem?_set_ne fun same => here same.symm).trans found_d, wrote⟩

/-- One of the reads of a call. -/
theorem emDia_ler (emDia : CaixaEmCurso.EmDia (s, r)) {k : Nat} (qual : LeituraDoPar)
    (found : s.chamadas[k]? = some c) :
    CaixaEmCurso.EmDia ({ s with chamadas := s.chamadas.set k (c.ler s.db qual) }, r) := by
  have escreveu : (c.ler s.db qual).escreveu = c.escreveu := (escreveu_ler qual c).1
  refine ⟨emDia.emOrdem, ?_, ?_, ?_, ?_⟩
  · intro j d found_d
    rcases getElem?_moved found_d with ⟨rfl, rfl⟩ | ⟨_, old⟩
    · exact certa_ler emDia.emOrdem qual (emDia.certas j c found)
    · exact emDia.certas j d old
  · intro j d b m found_d wrote
    obtain ⟨old, found_old, same⟩ := escreveu_moved found escreveu found_d
    exact emDia.ligadas j old b m found_old (same ▸ wrote)
  · intro j j' d d' b b' m m' found_d found_d' wrote wrote'
    obtain ⟨old, found_old, same⟩ := escreveu_moved found escreveu found_d
    obtain ⟨old', found_old', same'⟩ := escreveu_moved found escreveu found_d'
    exact emDia.distintas j j' old old' b b' m m' found_old found_old' (same ▸ wrote)
      (same' ▸ wrote')
  · apply mudaram_moved emDia found fun _ mem _ => mem
    intro mem
    obtain ⟨d, found_d, wrote⟩ := emDia.mudaram k mem
    obtain rfl := Option.some.inj (found.symm.trans found_d)
    rw [concilia_ler, escreveu]
    exact wrote

theorem mem_escritasEm {k : Nat} {b m : Id} (found : s.chamadas[k]? = some c)
    (wrote : c.escreveu = some (b, m)) : k ∈ s.escritasEm m := by
  refine List.mem_filter.mpr ⟨List.mem_range.mpr (List.getElem?_eq_some_iff.mp found).1, ?_⟩
  simp [found, wrote]

/-- What the register keeps of a statement. -/
theorem registrar_avancar {k : Nat} (found : s.chamadas[k]? = some c) :
    r.registrar s (.avancar k)
        { db := (c.avancar s.db).1, chamadas := s.chamadas.set k (c.avancar s.db).2 } =
      { desfeitas := ((c.desfez (c.avancar s.db).2).map s.escritasEm).getD [] ++ r.desfeitas
        mudaram :=
          if (c.avancar s.db).1.lancamentos = s.db.lancamentos then r.mudaram
          else k :: r.mudaram } := by
  simp only [RegistroDoCaixa.registrar, found, getElem?_moved_self found]

/-- A pair written before is of another manual entry, which was not free otherwise. -/
theorem outra_of_solto (emDia : CaixaEmCurso.EmDia (s, r)) {banco manual : Lancamento}
    (solto : ∀ l ∈ s.db.lancamentos, l.id = manual.id → l.reconciledWithId = none)
    (livre : ∀ l ∈ s.db.lancamentos, l.reconciledWithId = some banco.id → l.id = manual.id)
    {j : Nat} {d : ChamadaDoCaixa} {b m : Id} (found_d : s.chamadas[j]? = some d)
    (wrote : d.escreveu = some (b, m)) (free : j ∉ r.desfeitas) :
    b ≠ banco.id ∧ m ≠ manual.id := by
  obtain ⟨l, mem, named, aponta⟩ := emDia.ligadas j d b m found_d wrote free
  have other : m ≠ manual.id := by
    rintro rfl
    have none := solto l mem named
    rw [none] at aponta
    cases aponta
  refine ⟨?_, other⟩
  rintro rfl
  exact other (named.symm.trans (livre l mem aponta))

/-- One statement of a call, when it does not write over a reconciliation. -/
theorem emDia_avancar (emDia : CaixaEmCurso.EmDia (s, r)) {k : Nat}
    (found : s.chamadas[k]? = some c) (solto : EscreveSolto s (.avancar k)) :
    CaixaEmCurso.EmDia
      ({ db := (c.avancar s.db).1, chamadas := s.chamadas.set k (c.avancar s.db).2 },
        r.registrar s (.avancar k)
          { db := (c.avancar s.db).1, chamadas := s.chamadas.set k (c.avancar s.db).2 }) := by
  rw [registrar_avancar found]
  have passo := passo_avancar emDia.emOrdem (emDia.certas k c found)
  have kind := concilia_avancar s.db c
  generalize c.avancar s.db = resto at passo kind ⊢
  obtain ⟨novo, c'⟩ := resto
  obtain ⟨evolui, emOrdem, certa, efeito⟩ := passo
  -- the parts that do not depend on what the statement did
  have certas : ∀ (j : Nat) (d : ChamadaDoCaixa), (s.chamadas.set k c')[j]? = some d →
      d.Certa novo.lancamentos := by
    intro j d found_d
    rcases getElem?_moved found_d with ⟨_, rfl⟩ | ⟨_, old⟩
    · exact certa
    · exact (emDia.certas j d old).evolui evolui
  have mudaram : (novo.lancamentos ≠ s.db.lancamentos → c'.concilia → c'.escreveu.isSome) →
      (c.concilia → c.escreveu.isSome → c'.escreveu.isSome) →
      ∀ j ∈ (if novo.lancamentos = s.db.lancamentos then r.mudaram else k :: r.mudaram),
        ∃ d, (s.chamadas.set k c')[j]? = some d ∧ (d.concilia → d.escreveu.isSome) := by
    intro changed stays
    apply mudaram_moved emDia found
    · intro j mem other
      split at mem
      · exact mem
      · exact (List.mem_cons.mp mem).resolve_left other
    · intro mem concilia
      split at mem
      · obtain ⟨d, found_d, wrote⟩ := emDia.mudaram k mem
        obtain rfl := Option.some.inj (found.symm.trans found_d)
        exact stays (kind ▸ concilia) (wrote (kind ▸ concilia))
      · exact changed ‹_› concilia
  cases efeito with
  | nada ligados escreveu desfez mudou =>
      simp only [desfez, Option.map_none, Option.getD_none, List.nil_append]
      refine ⟨emOrdem, certas, ?_, ?_, mudaram (fun changed _ => escreveu ▸ mudou changed)
        (fun _ wrote => escreveu ▸ wrote)⟩
      · intro j d b m found_d wrote free
        obtain ⟨old, found_old, same⟩ := escreveu_moved found escreveu found_d
        exact (ligados m b).mpr (emDia.ligadas j old b m found_old (same ▸ wrote) free)
      · intro j j' d d' b b' m m' found_d found_d' wrote wrote'
        obtain ⟨old, found_old, same⟩ := escreveu_moved found escreveu found_d
        obtain ⟨old', found_old', same'⟩ := escreveu_moved found escreveu found_d'
        exact emDia.distintas j j' old old' b b' m m' found_old found_old' (same ▸ wrote)
          (same' ▸ wrote')
  | @ligou _ churchId banco manual fase livre outros ligado =>
      subst fase
      have outra : ∀ {j : Nat} {d : ChamadaDoCaixa} {b m : Id}, s.chamadas[j]? = some d →
          d.escreveu = some (b, m) → j ∉ r.desfeitas → b ≠ banco.id ∧ m ≠ manual.id :=
        outra_of_solto emDia (solto manual.id (by simp [found, ChamadaDoCaixa.aLigar])) livre
      refine ⟨emOrdem, certas, ?_, ?_, mudaram (fun _ _ => rfl) fun _ _ => rfl⟩
      · intro j d b m found_d wrote free
        rcases getElem?_moved found_d with ⟨rfl, rfl⟩ | ⟨_, old⟩
        · cases wrote
          exact ligado
        · exact outros m b (outra old wrote free).2 (emDia.ligadas j d b m old wrote free)
      · intro j j' d d' b b' m m' found_d found_d' wrote wrote' free free' apart
        rcases getElem?_moved found_d with ⟨rfl, rfl⟩ | ⟨_, old⟩
        · rcases getElem?_moved found_d' with ⟨rfl, rfl⟩ | ⟨_, old'⟩
          · exact absurd rfl apart
          · cases wrote
            have other := outra old' wrote' free'
            exact ⟨other.1.symm, other.2.symm⟩
        · rcases getElem?_moved found_d' with ⟨rfl, rfl⟩ | ⟨_, old'⟩
          · cases wrote'
            exact outra old wrote free
          · exact emDia.distintas j j' d d' b b' m m' old old' wrote wrote' free free' apart
  | @desfez _ _ manualId desfez nunca certa' outros =>
      have kind' := concilia_of_desfez desfez
      simp only [desfez, Option.map_some, Option.getD_some]
      -- the call that undid wrote no pair, and the pairs of that entry are now marked as undone
      have old : ∀ {j : Nat} {d : ChamadaDoCaixa} {par : Id × Id},
          (s.chamadas.set k c')[j]? = some d → d.escreveu = some par → s.chamadas[j]? = some d := by
        intro j d par found_d wrote
        rcases getElem?_moved found_d with ⟨_, rfl⟩ | ⟨_, old⟩
        · rw [nunca.2] at wrote
          cases wrote
        · exact old
      refine ⟨emOrdem, certas, ?_, ?_, mudaram ?_ ?_⟩
      · intro j d b m found_d wrote free
        have before := emDia.ligadas j d b m (old found_d wrote) wrote
          fun undone => free (List.mem_append_right _ undone)
        refine outros m b ?_ before
        rintro rfl
        exact free (List.mem_append_left _ (mem_escritasEm (old found_d wrote) wrote))
      · intro j j' d d' b b' m m' found_d found_d' wrote wrote' free free'
        exact emDia.distintas j j' d d' b b' m m' (old found_d wrote) (old found_d' wrote') wrote
          wrote' (fun undone => free (List.mem_append_right _ undone))
          fun undone => free' (List.mem_append_right _ undone)
      · intro _ concilia
        rw [kind, kind'] at concilia
        cases concilia
      · intro concilia
        rw [kind'] at concilia
        cases concilia

/-- One action of a run. -/
theorem emDia_step (emDia : CaixaEmCurso.EmDia (s, r)) (acao : CaixaEmCurso.Acao)
    (solto : EscreveSolto s acao) :
    CaixaEmCurso.EmDia
      (withHistory CaixaEmCurso.step RegistroDoCaixa.registrar (s, r) acao) := by
  cases acao with
  | conciliar churchId bancoId manualId =>
      exact emDia_iniciar emDia
        ⟨fun _ read => (by cases read), fun _ read => (by cases read)⟩ rfl
  | desfazer churchId manualId => exact emDia_iniciar emDia trivial rfl
  | remover churchId id => exact emDia_iniciar emDia trivial rfl
  | ler k qual =>
      cases found : s.chamadas[k]? with
      | none =>
          simp only [withHistory, CaixaEmCurso.step, found]
          exact emDia
      | some c =>
          simp only [withHistory, CaixaEmCurso.step, found]
          exact emDia_ler emDia qual found
  | avancar k =>
      cases found : s.chamadas[k]? with
      | none =>
          simp only [withHistory, CaixaEmCurso.step, found, RegistroDoCaixa.registrar]
          exact emDia
      | some c =>
          simp only [withHistory, CaixaEmCurso.step, found]
          exact emDia_avancar emDia found solto

end EmCurso

/-- In a run of the statements of any number of `conciliar`, `desfazer` and `remover` calls where no
`conciliar` writes a manual entry that another one reconciled since it was read: what succeeded
stays until it is undone or removed, no two of them share an entry, and what was refused changed
none. -/
theorem conciliacaoDuravel_run {db : LivroCaixa} (emOrdem : db.EmOrdem)
    (acoes : List CaixaEmCurso.Acao)
    (soltos : EachStep CaixaEmCurso.step EscreveSolto ⟨db, []⟩ acoes) :
    Always (withHistory CaixaEmCurso.step RegistroDoCaixa.registrar) ConciliacaoDuravel
      (⟨db, []⟩, ⟨[], []⟩) acoes := by
  have start : CaixaEmCurso.EmDia (⟨db, []⟩, ⟨[], []⟩) := by
    refine ⟨emOrdem, ?_, ?_, ?_, ?_⟩ <;> simp
  refine (always_of_eachStep (P := CaixaEmCurso.EmDia) (G := fun sr acao => EscreveSolto sr.1 acao)
    (fun sr acao emDia solto => emDia_step emDia acao solto) start ?_).mono
      fun _ emDia => emDia.duravel
  exact (eachStep_withHistory _).mpr soltos

/-! ### Two calls on one entry -/

namespace OfertaDoBanco

def outroPix : TransacaoDoBanco := { pix with id := "u" }

/-- Two deposits of the bank and one offering. -/
def doisPix : LivroCaixa :=
  runFrom LivroCaixa.agir vazio [.importar 1 (.ok [pix, outroPix]) 0, .criar 1 oferta 1]

/-- The three reads of a call, and its checks. -/
def leituras (k : Nat) : List CaixaEmCurso.Acao :=
  [.ler k .banco, .ler k .reconciledBy, .ler k .manual, .avancar k]

/-- Two calls reconcile the offering with a deposit each: both read it before either writes. -/
def duas : List CaixaEmCurso.Acao :=
  [.conciliar 1 0 2, .conciliar 1 1 2] ++ leituras 0 ++ leituras 1 ++
    [.avancar 0, .avancar 0, .avancar 1, .avancar 1]

/-- The second call reads after the first one wrote. -/
def umaDepoisDaOutra : List CaixaEmCurso.Acao :=
  [.conciliar 1 0 2, .conciliar 1 1 2] ++ leituras 0 ++ [.avancar 0, .avancar 0] ++ leituras 1

end OfertaDoBanco

theorem emOrdem_doisPix : OfertaDoBanco.doisPix.EmOrdem := ⟨by decide +kernel, by decide +kernel⟩

/-- Both calls return without error, and the offering is with the second deposit. -/
theorem not_conciliacaoDuravel_duas :
    ¬ Always (withHistory CaixaEmCurso.step RegistroDoCaixa.registrar) ConciliacaoDuravel
      (⟨OfertaDoBanco.doisPix, []⟩, ⟨[], []⟩) OfertaDoBanco.duas := by
  intro always
  have law := always.last.uma
  have primeira : ∃ c, (runFrom (withHistory CaixaEmCurso.step RegistroDoCaixa.registrar)
      (⟨OfertaDoBanco.doisPix, []⟩, ⟨[], []⟩) OfertaDoBanco.duas).1.chamadas[0]? = some c ∧
        c.conciliou = some (0, 2) :=
    ⟨.conciliar 1 0 2 (.fim none), by decide +kernel, rfl⟩
  have segunda : ∃ c, (runFrom (withHistory CaixaEmCurso.step RegistroDoCaixa.registrar)
      (⟨OfertaDoBanco.doisPix, []⟩, ⟨[], []⟩) OfertaDoBanco.duas).1.chamadas[1]? = some c ∧
        c.conciliou = some (1, 2) :=
    ⟨.conciliar 1 1 2 (.fim none), by decide +kernel, rfl⟩
  have nenhuma : (runFrom (withHistory CaixaEmCurso.step RegistroDoCaixa.registrar)
      (⟨OfertaDoBanco.doisPix, []⟩, ⟨[], []⟩) OfertaDoBanco.duas).2.desfeitas = [] := by
    decide +kernel
  obtain ⟨c, found, ok⟩ := primeira
  obtain ⟨c', found', ok'⟩ := segunda
  exact (law 0 1 c c' 0 1 2 2 found found' ok ok' (by rw [nenhuma]; decide)
    (by rw [nenhuma]; decide) (by decide)).2 rfl

theorem conciliacaoDuravel_run_umaDepoisDaOutra :
    Always (withHistory CaixaEmCurso.step RegistroDoCaixa.registrar) ConciliacaoDuravel
      (⟨OfertaDoBanco.doisPix, []⟩, ⟨[], []⟩) OfertaDoBanco.umaDepoisDaOutra :=
  conciliacaoDuravel_run emOrdem_doisPix _ (by decide +kernel)

end IccvBackend
