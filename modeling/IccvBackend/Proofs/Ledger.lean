/-
Module: IccvBackend.Proofs.Ledger
Purpose: When the lines of a treasury count the money allocated to it once and in full.
Trusted boundary: none
Main exports: Tesourarias.ContaUmaVez, Tesourarias.EmDia, MantemAConta, contaUmaVez_run_iff,
  not_contaUmaVez_parteDepois
-/
import IccvBackend.Proofs.Distribution
import IccvBackend.Lib.Trail

namespace IccvBackend

open Lib

/-! ### The law -/

namespace Tesourarias

/-- For every treasury and every movement allocated to it, the lines of the treasury for that
movement add up to what is allocated. -/
def ContaUmaVez (db : Tesourarias) : Prop :=
  ∀ t ∈ db.treasuries, ∀ a ∈ db.alocacoes, a.treasuryId = t.id →
    ∀ m, db.entry? a.entryId = some m →
      (((db.lancamentosDe t).filter fun l => l.movimentoId = some m.id).map
        LancamentoDaTesouraria.comSinal).sum = comSinal m.type a.amount

/-- The values of the system entries of a treasury reconciled with a movement. -/
def reconciliado (db : Tesourarias) (t : Treasury) (m : Id) : List Int :=
  ((db.payments.filter fun p => contaNa t p && db.conciliadoCom p.id = some m).map fun p =>
    cents p.amount) ++
  ((db.entries.filter fun e => e.treasuryId = t.id && e.movementId = some m).map fun e =>
    comSinal e.type e.amount)

/-- The same without one payment. -/
def reconciliadoSem (db : Tesourarias) (t : Treasury) (m paymentId : Id) : List Int :=
  reconciliado { db with payments := db.payments.filter fun p => p.id ≠ paymentId } t m

/-- The keys of the allocations, and their movements. -/
structure AlocacoesEmDia (db : Tesourarias) : Prop where
  alocacoes : (db.alocacoes.map TreasuryAllocation.chave).Nodup
  ids : (db.alocacoes.map TreasuryAllocation.id).Nodup
  novos : ∀ a ∈ db.alocacoes, a.id < db.nextId
  movimentos : ∀ a ∈ db.alocacoes, (db.entry? a.entryId).isSome

/-- The keys of the schema, and links that name the treasury of their payment and an allocation of
it. -/
structure EmDia (db : Tesourarias) : Prop extends db.AlocacoesEmDia where
  treasuries : (db.treasuries.map Treasury.id).Nodup
  eventos : ∀ t ∈ db.treasuries, ∀ t' ∈ db.treasuries, t.eventId.isSome →
    t.eventId = t'.eventId → t = t'
  payments : (db.payments.map Payment.id).Nodup
  entries : (db.entries.map TreasuryEntry.id).Nodup
  entriesNovas : ∀ e ∈ db.entries, e.id < db.nextId
  ligados : ∀ p ∈ db.payments, ∀ link, db.link? p.id = some link → ∀ t ∈ db.treasuries,
    t.eventId.isSome → p.eventId = t.eventId → link.treasuryId = t.id
  linksAlocados : ∀ p ∈ db.payments, ∀ link m, db.link? p.id = some link →
    link.movementId = some m → (link.treasuryId, m) ∈ db.alocacoes.map TreasuryAllocation.chave
  entriesAlocadas : ∀ e ∈ db.entries, ∀ m, e.movementId = some m →
    (e.treasuryId, m) ∈ db.alocacoes.map TreasuryAllocation.chave

end Tesourarias

/-- What keeps the lines and the allocations equal: nothing more is distributed of a movement that
is already reconciled in the treasury, and a payment that stops being a line or becomes one again
is alone in its reconciliation (and then, when it comes back, is worth what is allocated), or is
worth less than half a cent. -/
def MantemAConta (db : Tesourarias) : Tesourarias.Acao → Prop
  | .distribuir id partes =>
      (db.distribuir id partes).isOk → ∀ t ∈ db.treasuries, t.id = id →
        ∀ parte ∈ partes, db.reconciliado t parte.movimentoId = []
  | .mudarStatus paymentId status _ =>
      ∀ p ∈ db.payments, p.id = paymentId → 0 < p.amount → ∀ t ∈ db.treasuries,
        t.eventId.isSome → p.eventId = t.eventId → ∀ a ∈ db.alocacoes, a.treasuryId = t.id →
          db.conciliadoCom paymentId = some a.entryId → ∀ m, db.entry? a.entryId = some m →
            (p.status = .paid → status ≠ .paid →
              db.reconciliadoSem t a.entryId paymentId = [] ∨ cents p.amount = 0) ∧
            (p.status ≠ .paid → status = .paid →
              if db.reconciliadoSem t a.entryId paymentId = [] then
                cents p.amount = comSinal m.type a.amount
              else cents p.amount = 0)
  | _ => True

/-! ### The lines of a movement -/

section Linhas

variable {db : Tesourarias}

theorem entry?_id {id : Id} {m : FinancialEntry} (found : db.entry? id = some m) : m.id = id := by
  simpa using List.find?_some found

/-- The system lines of a movement, up to their order. -/
theorem sistema_perm (db : Tesourarias) (t : Treasury) (k : Id) :
    (((db.sistema t).filter fun l => l.movimentoId = some k).map LinhaDoSistema.comSinal).Perm
      (db.reconciliado t k) := by
  have sorted := (((List.perm_insertionSort (fun a b => b.lancamento.data ≤ a.lancamento.data)
    ((db.payments.filter (Tesourarias.contaNa t)).map db.linhaDoPagamento ++
      (db.entries.filter fun m => m.treasuryId = t.id).map Tesourarias.linhaDoManual)).filter
      fun l => l.movimentoId = some k).map LinhaDoSistema.comSinal)
  refine sorted.trans (List.Perm.of_eq ?_)
  simp only [List.filter_append, List.map_append, List.filter_map, List.map_map, List.filter_filter,
    Tesourarias.reconciliado]
  congr 1
  · congr 1
    exact List.filter_congr fun p _ => Bool.and_comm _ _
  · congr 1
    exact List.filter_congr fun e _ => Bool.and_comm _ _

theorem reconciliado_eq_nil_iff (db : Tesourarias) (t : Treasury) (k : Id) :
    db.reconciliado t k = [] ↔ (db.sistema t).any (fun l => l.movimentoId = some k) = false := by
  have same := (sistema_perm db t k).length_eq
  rw [List.length_map] at same
  rw [← List.length_eq_zero_iff, ← same, List.length_eq_zero_iff, List.filter_eq_nil_iff,
    List.any_eq_false]

theorem alocacao_unica (chaves : (db.alocacoes.map TreasuryAllocation.chave).Nodup)
    {a b : TreasuryAllocation} (mem : a ∈ db.alocacoes) (mem' : b ∈ db.alocacoes)
    (same : a.chave = b.chave) : a = b :=
  List.inj_on_of_nodup_map chaves mem mem' same

/-- The lines for a movement add up to the reconciled entries, or else to the allocation itself. -/
theorem soma_linhas (chaves : (db.alocacoes.map TreasuryAllocation.chave).Nodup) {t : Treasury}
    {a : TreasuryAllocation} {m : FinancialEntry} (mem : a ∈ db.alocacoes)
    (of : a.treasuryId = t.id) (found : db.entry? a.entryId = some m) :
    (((db.lancamentosDe t).filter fun l => l.movimentoId = some m.id).map
        LancamentoDaTesouraria.comSinal).sum =
      if db.reconciliado t a.entryId = [] then comSinal m.type a.amount
      else (db.reconciliado t a.entryId).sum := by
  have m_id := entry?_id found
  have sistema := (sistema_perm db t m.id).sum_eq
  -- the allocation lines of the movement, when there are any
  have unica : (db.alocacoes.filter fun b => b.treasuryId = t.id).filter
      (fun b => b.entryId = a.entryId) = [a] := by
    rw [List.filter_filter]
    refine (filter_eq_singleton (List.Nodup.of_map _ chaves) a fun b mem_b => ?_).trans (if_pos mem)
    simp only [Bool.and_eq_true, decide_eq_true_eq]
    constructor
    · rintro ⟨entry, treasury⟩
      exact alocacao_unica chaves mem_b mem (Prod.ext (treasury.trans of.symm) entry)
    · rintro rfl
      exact ⟨rfl, of⟩
  have alocacoes : ((db.alocacoesDe t).filter fun b => b.2.id = m.id).Perm [(a, m)] := by
    refine ((List.perm_insertionSort _ _).filter _).trans (List.Perm.of_eq ?_)
    rw [← filterMap_filter_eq (p := fun b => decide (b.entryId = a.entryId)), unica]
    · simp [found]
    · intro b mem_b image of_b
      obtain ⟨mb, found_b, rfl⟩ := Option.map_eq_some_iff.mp of_b
      simp only [entry?_id found_b, m_id]
  have partes : (((db.lancamentosDe t).filter fun l => l.movimentoId = some m.id).map
      LancamentoDaTesouraria.comSinal).sum =
      (((db.sistema t).filter fun l => l.movimentoId = some m.id).map
        LinhaDoSistema.comSinal).sum +
      ((((db.alocacoesDe t).filter fun b => !(db.sistema t).any fun l =>
          l.movimentoId = some b.2.id).filter fun b => b.2.id = m.id).map fun b =>
        comSinal b.2.type b.1.amount).sum := by
    unfold Tesourarias.lancamentosDe
    simp only [List.filter_append, List.map_append, List.filter_map, List.map_map,
      List.sum_append]
    congr 4
    funext b
    simp
  rw [partes, sistema, List.filter_comm, m_id]
  rw [m_id] at alocacoes
  by_cases paired : db.reconciliado t a.entryId = []
  · have visible := (reconciliado_eq_nil_iff db t a.entryId).mp paired
    rw [if_pos paired, paired, ((alocacoes.filter _).map _).sum_eq]
    simp [m_id, visible]
  · have hidden : (db.sistema t).any (fun l => l.movimentoId = some a.entryId) = true := by
      rw [reconciliado_eq_nil_iff, Bool.not_eq_false] at paired
      exact paired
    rw [if_neg paired, ((alocacoes.filter _).map _).sum_eq]
    simp [m_id, hidden]

theorem contaUmaVez_iff (emDia : db.EmDia) :
    db.ContaUmaVez ↔ ∀ t ∈ db.treasuries, ∀ a ∈ db.alocacoes, a.treasuryId = t.id →
      ∀ m, db.entry? a.entryId = some m → db.reconciliado t a.entryId ≠ [] →
        (db.reconciliado t a.entryId).sum = comSinal m.type a.amount := by
  constructor
  · intro lei t mem_t a mem of m found paired
    have sums := lei t mem_t a mem of m found
    rwa [soma_linhas emDia.alocacoes mem of found, if_neg paired] at sums
  · intro lei t mem_t a mem of m found
    rw [soma_linhas emDia.alocacoes mem of found]
    split
    · rfl
    · next paired => exact lei t mem_t a mem of m found paired

/-- What is reconciled with a movement in a treasury is allocated to it. -/
theorem Tesourarias.EmDia.alocado (emDia : db.EmDia) {t : Treasury} (mem_t : t ∈ db.treasuries)
    {k : Id} (paired : db.reconciliado t k ≠ []) :
    (t.id, k) ∈ db.alocacoes.map TreasuryAllocation.chave := by
  obtain ⟨value, mem⟩ := List.exists_mem_of_ne_nil _ paired
  rcases List.mem_append.mp mem with payment | manual
  · obtain ⟨p, mem_p, _⟩ := List.mem_map.mp payment
    obtain ⟨mem_p, line⟩ := List.mem_filter.mp mem_p
    simp only [Tesourarias.contaNa, Bool.and_eq_true, decide_eq_true_eq] at line
    obtain ⟨⟨⟨⟨event, of_event⟩, _⟩, _⟩, reconciled⟩ := line
    obtain ⟨link, found, movement⟩ := Option.bind_eq_some_iff.mp reconciled
    rw [← emDia.ligados p mem_p link found t mem_t event of_event]
    exact emDia.linksAlocados p mem_p link k found movement
  · obtain ⟨e, mem_e, _⟩ := List.mem_map.mp manual
    obtain ⟨mem_e, line⟩ := List.mem_filter.mp mem_e
    simp only [Bool.and_eq_true, decide_eq_true_eq] at line
    rw [← line.1]
    exact emDia.entriesAlocadas e mem_e k line.2

end Linhas

/-! ### Allocating -/

section Alocar

variable {db depois : Tesourarias}

/-- The rows an operation on allocations leaves alone. -/
structure MesmasLinhas (db depois : Tesourarias) : Prop where
  treasuries : depois.treasuries = db.treasuries
  movimentos : depois.movimentos = db.movimentos
  payments : depois.payments = db.payments
  links : depois.links = db.links
  entries : depois.entries = db.entries

theorem MesmasLinhas.reconciliado (same : MesmasLinhas db depois) (t : Treasury) (k : Id) :
    depois.reconciliado t k = db.reconciliado t k := by
  unfold Tesourarias.reconciliado
  rw [same.payments, same.entries]
  congr 2
  refine List.filter_congr fun p _ => ?_
  unfold Tesourarias.conciliadoCom Tesourarias.link?
  rw [same.links]

theorem MesmasLinhas.entry? (same : MesmasLinhas db depois) (k : Id) :
    depois.entry? k = db.entry? k := by
  simp only [Tesourarias.entry?, same.movimentos]

theorem MesmasLinhas.trans {fim : Tesourarias} (first : MesmasLinhas db depois)
    (second : MesmasLinhas depois fim) : MesmasLinhas db fim where
  treasuries := second.treasuries.trans first.treasuries
  movimentos := second.movimentos.trans first.movimentos
  payments := second.payments.trans first.payments
  links := second.links.trans first.links
  entries := second.entries.trans first.entries

theorem MesmasLinhas.somarAlocacao (db : Tesourarias) (treasuryId entryId : Id) (amount : Int)
    (category : Option String) :
    MesmasLinhas db (db.somarAlocacao treasuryId entryId amount category) := by
  unfold Tesourarias.somarAlocacao
  split <;> exact ⟨rfl, rfl, rfl, rfl, rfl⟩

theorem somarAlocacao_nextId (db : Tesourarias) (treasuryId entryId : Id) (amount : Int)
    (category : Option String) :
    db.nextId ≤ (db.somarAlocacao treasuryId entryId amount category).nextId := by
  unfold Tesourarias.somarAlocacao
  split
  · exact le_rfl
  · exact Nat.le_succ _

theorem Tesourarias.AlocacoesEmDia.criarAlocacao (emDia : db.AlocacoesEmDia)
    {treasuryId entryId : Id} (new : (treasuryId, entryId) ∉
      db.alocacoes.map TreasuryAllocation.chave) (movimento : (db.entry? entryId).isSome)
    (amount : Int) (category : Option String) :
    (db.criarAlocacao treasuryId entryId amount category).AlocacoesEmDia where
  alocacoes := by
    rw [criarAlocacao_alocacoes, List.map_append]
    exact emDia.alocacoes.append (List.nodup_singleton _)
      (by rw [List.map_singleton, List.disjoint_singleton]; exact new)
  ids := by
    rw [criarAlocacao_alocacoes, List.map_append]
    refine emDia.ids.append (List.nodup_singleton _) ?_
    rw [List.map_singleton, List.disjoint_singleton]
    intro mem
    obtain ⟨a, mem_a, same⟩ := List.mem_map.mp mem
    exact absurd same (emDia.novos a mem_a).ne
  novos a mem := by
    rcases List.mem_append.mp mem with old | new
    · exact Nat.lt_succ_of_lt (emDia.novos a old)
    · obtain rfl := List.mem_singleton.mp new
      exact Nat.lt_succ_self _
  movimentos a mem := by
    rcases List.mem_append.mp mem with old | new
    · exact emDia.movimentos a old
    · obtain rfl := List.mem_singleton.mp new
      exact movimento

/-- What bringing a part does to the allocations: the one of that movement in that treasury grows,
or is born, and the others stay. -/
theorem somarAlocacao_spec (emDia : db.AlocacoesEmDia) (treasuryId : Id) {entryId : Id}
    (movimento : (db.entry? entryId).isSome) {amount : Int} (pos : 0 < amount)
    (category : Option String) :
    (db.somarAlocacao treasuryId entryId amount category).AlocacoesEmDia ∧
      (∀ b ∈ (db.somarAlocacao treasuryId entryId amount category).alocacoes,
        b ∈ db.alocacoes ∨ b.chave = (treasuryId, entryId)) ∧
      ∀ a ∈ db.alocacoes, ∃ b ∈ (db.somarAlocacao treasuryId entryId amount category).alocacoes,
        b.chave = a.chave ∧ a.amount ≤ b.amount ∧
          (a.chave = (treasuryId, entryId) → a.amount < b.amount) := by
  unfold Tesourarias.somarAlocacao
  split
  · next found =>
      dsimp only
      set somar : TreasuryAllocation → TreasuryAllocation := fun a =>
        if a.treasuryId = treasuryId && a.entryId = entryId then
          { a with amount := a.amount + amount } else a with somar_def
      have chave : ∀ a, (somar a).chave = a.chave := fun a => by
        simp only [somar_def]; split <;> rfl
      have id_eq : ∀ a, (somar a).id = a.id := fun a => by simp only [somar_def]; split <;> rfl
      have entry_eq : ∀ a, (somar a).entryId = a.entryId := fun a => (Prod.mk.inj (chave a)).2
      refine ⟨⟨?_, ?_, ?_, ?_⟩, ?_, ?_⟩
      · rw [List.map_map, show TreasuryAllocation.chave ∘ somar = TreasuryAllocation.chave from
          funext chave]
        exact emDia.alocacoes
      · rw [List.map_map, show TreasuryAllocation.id ∘ somar = TreasuryAllocation.id from
          funext id_eq]
        exact emDia.ids
      · intro b mem
        obtain ⟨a, mem_a, rfl⟩ := List.mem_map.mp mem
        exact id_eq a ▸ emDia.novos a mem_a
      · intro b mem
        obtain ⟨a, mem_a, rfl⟩ := List.mem_map.mp mem
        rw [entry_eq]
        exact emDia.movimentos a mem_a
      · intro b mem
        obtain ⟨a, mem_a, rfl⟩ := List.mem_map.mp mem
        by_cases here : (decide (a.treasuryId = treasuryId) && decide (a.entryId = entryId)) = true
        · refine .inr ((chave a).trans ?_)
          simp only [Bool.and_eq_true, decide_eq_true_eq] at here
          exact Prod.ext here.1 here.2
        · exact .inl (by simp only [somar_def, here]; exact mem_a)
      · intro a mem
        refine ⟨somar a, List.mem_map_of_mem mem, chave a, ?_, fun same => ?_⟩
        · simp only [somar_def]
          split
          · exact (Int.lt_add_of_pos_right _ pos).le
          · exact le_rfl
        · obtain ⟨rfl, rfl⟩ := Prod.mk.inj same
          simp only [somar_def, decide_true, Bool.and_self, if_true]
          exact Int.lt_add_of_pos_right _ pos
  · next none_found =>
      have new : (treasuryId, entryId) ∉ db.alocacoes.map TreasuryAllocation.chave := by
        rw [← alocacao?_isSome_iff, none_found]
        exact Bool.false_ne_true
      refine ⟨emDia.criarAlocacao new movimento amount category, fun b mem => ?_, fun a mem => ?_⟩
      · rcases List.mem_append.mp mem with old | born
        · exact .inl old
        · obtain rfl := List.mem_singleton.mp born
          exact .inr rfl
      · refine ⟨a, List.mem_append_left _ mem, rfl, le_rfl, fun same => ?_⟩
        exact absurd (same ▸ List.mem_map_of_mem mem) new

theorem movimento?_entry {k : Id} {m : FinancialEntry} (found : db.movimento? k = some m) :
    db.entry? k = some m :=
  (Option.filter_eq_some_iff.mp found).1

theorem restanteDe_movimento {account : TreasuryAccount} {k : Id} {restante : Int}
    (read : db.restanteDe account k = .ok restante) : (db.entry? k).isSome := by
  obtain ⟨m, found, _⟩ := restanteDe_ok read
  rw [movimento?_entry found]
  rfl

/-- A distribution that went through. -/
structure Distribuiu (db : Tesourarias) (id : Id) (partes : List Parte) (depois : Tesourarias) :
    Prop where
  same : MesmasLinhas db depois
  emDia : depois.AlocacoesEmDia
  contador : db.nextId ≤ depois.nextId
  antigas : ∀ b ∈ depois.alocacoes, b ∈ db.alocacoes ∨
    (b.treasuryId = id ∧ ∃ parte ∈ partes, parte.movimentoId = b.entryId)
  cresceram : ∀ a ∈ db.alocacoes, ∃ b ∈ depois.alocacoes, b.chave = a.chave ∧
    a.amount ≤ b.amount ∧
      (a.treasuryId = id → (∃ parte ∈ partes, parte.movimentoId = a.entryId) →
        a.amount < b.amount)

theorem distribuirPartes_ok (id : Id) (account : TreasuryAccount) (partes : List Parte) :
    ∀ db : Tesourarias, db.AlocacoesEmDia → ∀ depois,
      partes.foldlM (Tesourarias.distribuirParte id account) db = .ok depois →
        Distribuiu db id partes depois := by
  induction partes with
  | nil =>
      intro db emDia depois ok
      obtain rfl := pure_eq_ok_iff.mp ok
      exact
        { same := ⟨rfl, rfl, rfl, rfl, rfl⟩
          emDia := emDia
          contador := le_rfl
          antigas := fun b mem => .inl mem
          cresceram := fun a mem => ⟨a, mem, rfl, le_rfl, fun _ ⟨_, nobody, _⟩ => nomatch nobody⟩ }
  | cons parte partes ih =>
      intro db emDia depois ok
      rw [List.foldlM_cons, bind_eq_ok_iff] at ok
      obtain ⟨meio, first, rest⟩ := ok
      unfold Tesourarias.distribuirParte at first
      simp only [bind_eq_ok_iff, pure_eq_ok_iff] at first
      obtain ⟨restante, read, valor, taken, rfl⟩ := first
      obtain ⟨emDia', antigas, cresceram⟩ :=
        somarAlocacao_spec emDia id (restanteDe_movimento read) (tomar_ok taken).1 none
      obtain ⟨same_rest, emDia_rest, contador, antigas_rest, cresceram_rest⟩ :=
        ih _ emDia' depois rest
      refine ⟨(MesmasLinhas.somarAlocacao db _ _ _ _).trans same_rest, emDia_rest,
        (somarAlocacao_nextId db _ _ _ _).trans contador, fun b mem => ?_, fun a mem => ?_⟩
      · rcases antigas_rest b mem with old | ⟨treasury, other, mem_other, entry⟩
        · refine (antigas b old).imp (fun still => still) fun chave => ?_
          obtain ⟨treasury, entry⟩ := Prod.mk.inj chave
          exact ⟨treasury, parte, List.mem_cons_self, entry.symm⟩
        · exact .inr ⟨treasury, other, List.mem_cons_of_mem _ mem_other, entry⟩
      · obtain ⟨b, mem_b, chave_b, le_b, lt_b⟩ := cresceram a mem
        obtain ⟨c, mem_c, chave_c, le_c, lt_c⟩ := cresceram_rest b mem_b
        obtain ⟨treasury_b, entry_b⟩ := Prod.mk.inj chave_b
        refine ⟨c, mem_c, chave_c.trans chave_b, le_b.trans le_c, fun treasury named => ?_⟩
        obtain ⟨other, mem_other, entry⟩ := named
        rcases List.mem_cons.mp mem_other with rfl | later
        · exact lt_of_lt_of_le (lt_b (Prod.ext treasury entry.symm)) le_c
        · exact lt_of_le_of_lt le_b
            (lt_c (treasury_b.trans treasury) ⟨other, later, entry.trans entry_b.symm⟩)

theorem exigirAberta_ok {id : Id} {t : Treasury} (ok : db.exigirAberta id = .ok t) :
    t ∈ db.treasuries ∧ t.id = id := by
  unfold Tesourarias.exigirAberta at ok
  simp only [bind_eq_ok_iff, orFail_eq_ok_iff, failIf_eq_ok_iff, pure_eq_ok_iff] at ok
  obtain ⟨t', found, _, _, rfl⟩ := ok
  have named := List.find?_some found
  simp only [Bool.and_eq_true, decide_eq_true_eq] at named
  exact ⟨List.mem_of_find?_eq_some found, named.1⟩

theorem distribuir_ok {id : Id} {partes : List Parte} (emDia : db.AlocacoesEmDia)
    (ok : db.distribuir id partes = .ok depois) : Distribuiu db id partes depois := by
  unfold Tesourarias.distribuir at ok
  rw [bind_eq_ok_iff] at ok
  obtain ⟨t, _, done⟩ := ok
  exact distribuirPartes_ok id _ partes db emDia depois done

theorem Distribuiu.emDia_depois {id : Id} {partes : List Parte} (emDia : db.EmDia)
    (done : Distribuiu db id partes depois) : depois.EmDia := by
  obtain ⟨⟨treasuries, movimentos, payments, links, entries⟩, alocacoes, contador, _, cresceram⟩ :=
    done
  have link : ∀ q, depois.link? q = db.link? q := fun q => by
    unfold Tesourarias.link?
    rw [links]
  have grew : ∀ chave ∈ db.alocacoes.map TreasuryAllocation.chave,
      chave ∈ depois.alocacoes.map TreasuryAllocation.chave := by
    intro chave mem
    obtain ⟨a, mem_a, rfl⟩ := List.mem_map.mp mem
    obtain ⟨b, mem_b, same, _⟩ := cresceram a mem_a
    exact List.mem_map.mpr ⟨b, mem_b, same⟩
  refine ⟨alocacoes, ?_, ?_, ?_, ?_, ?_, ?_, ?_, ?_⟩
  · rw [treasuries]; exact emDia.treasuries
  · rw [treasuries]; exact emDia.eventos
  · rw [payments]; exact emDia.payments
  · rw [entries]; exact emDia.entries
  · rw [entries]; exact fun e mem => (emDia.entriesNovas e mem).trans_le contador
  · intro p mem found there
    rw [payments] at mem
    rw [link] at there
    rw [treasuries]
    exact emDia.ligados p mem found there
  · intro p mem found m there movement
    rw [payments] at mem
    rw [link] at there
    exact grew _ (emDia.linksAlocados p mem found m there movement)
  · intro e mem m movement
    rw [entries] at mem
    exact grew _ (emDia.entriesAlocadas e mem m movement)

theorem comSinal_injective {tipo : FinancialEntryType} {a b : Int}
    (same : comSinal tipo a = comSinal tipo b) : a = b := by
  cases tipo with
  | income => exact same
  | expense => exact neg_injective same

theorem contaUmaVez_distribuir {id : Id} {partes : List Parte} (emDia : db.EmDia)
    (lei : db.ContaUmaVez) (done : Distribuiu db id partes depois) :
    depois.ContaUmaVez ↔ ∀ t ∈ db.treasuries, t.id = id → ∀ parte ∈ partes,
      db.reconciliado t parte.movimentoId = [] := by
  rw [contaUmaVez_iff emDia] at lei
  rw [contaUmaVez_iff (done.emDia_depois emDia)]
  constructor
  · intro after t mem_t t_id parte mem_parte
    by_contra paired
    obtain ⟨a, mem_a, chave⟩ := List.mem_map.mp (emDia.alocado mem_t paired)
    obtain ⟨of, entry⟩ := Prod.mk.inj chave
    obtain ⟨m, found⟩ := Option.isSome_iff_exists.mp (emDia.movimentos a mem_a)
    obtain ⟨b, mem_b, chave_b, _, more⟩ := done.cresceram a mem_a
    obtain ⟨of_b, entry_b⟩ := Prod.mk.inj chave_b
    have before := lei t mem_t a mem_a of m found (entry ▸ paired)
    have now := after t (done.same.treasuries ▸ mem_t) b mem_b (of_b.trans of) m
      (by rw [done.same.entry?, entry_b, found])
      (by rw [done.same.reconciliado, entry_b, entry]; exact paired)
    rw [done.same.reconciliado, entry_b, before] at now
    have grew := more (of.trans t_id) ⟨parte, mem_parte, entry.symm⟩
    exact grew.ne (comSinal_injective now)
  · intro free t mem_t b mem_b of m found paired
    rw [done.same.treasuries] at mem_t
    rw [done.same.entry?] at found
    rw [done.same.reconciliado] at paired ⊢
    rcases done.antigas b mem_b with old | ⟨treasury, parte, mem_parte, entry⟩
    · exact lei t mem_t b old of m found paired
    · exact absurd (entry ▸ free t mem_t (of.symm.trans treasury) parte mem_parte) paired

end Alocar

/-! ### Links and manual entries -/

section Ligar

variable {db : Tesourarias}

/-- Values of selected rows, after a rewrite of the rows. -/
theorem map_filter_map_eq {α β : Type*} {rows : List α} {g : α → α} {p q : α → Bool} {v : α → β}
    (select : ∀ row ∈ rows, p (g row) = q row) (value : ∀ row ∈ rows, v (g row) = v row) :
    ((rows.map g).filter p).map v = (rows.filter q).map v := by
  induction rows with
  | nil => rfl
  | cons row rows ih =>
      have rest := ih (fun row mem => select row (List.mem_cons_of_mem _ mem))
        fun row mem => value row (List.mem_cons_of_mem _ mem)
      have here := select row List.mem_cons_self
      have same := value row List.mem_cons_self
      cases keep : q row <;> simp [here, keep, rest, same]

theorem link?_upsertLink {q treasuryId : Id} {f : TreasuryPaymentLink → TreasuryPaymentLink}
    (same_key : ∀ link, (f link).paymentId = link.paymentId) (other : Id) :
    (db.upsertLink q treasuryId f).link? other =
      if other = q then some (f ((db.link? q).getD ⟨q, treasuryId, none, none⟩))
      else db.link? other := by
  unfold Tesourarias.upsertLink
  cases found : db.link? q with
  | some link =>
      unfold Tesourarias.link? at found ⊢
      dsimp only
      rw [List.find?_map]
      have keys : ((fun link => decide (link.paymentId = other)) ∘ fun link =>
          if link.paymentId = q then f link else link) =
          fun link : TreasuryPaymentLink => decide (link.paymentId = other) := by
        funext link
        simp only [Function.comp]
        split <;> simp [same_key]
      rw [keys]
      by_cases here : other = q
      · subst here
        have named : link.paymentId = other := by simpa using List.find?_some found
        simp [found, named]
      · rw [if_neg here]
        cases there : db.links.find? fun link => decide (link.paymentId = other) with
        | none => rfl
        | some row =>
            have named : row.paymentId = other := by simpa using List.find?_some there
            simp [named, here]
  | none =>
      unfold Tesourarias.link? at found ⊢
      dsimp only
      rw [List.find?_append]
      by_cases here : other = q
      · subst here
        rw [found]
        simp [same_key]
      · have new : ((f ⟨q, treasuryId, none, none⟩).paymentId = other) = False := by
          rw [same_key]
          simpa using Ne.symm here
        simp [new, here]

theorem upsertLink_rest (db : Tesourarias) (q treasuryId : Id)
    (f : TreasuryPaymentLink → TreasuryPaymentLink) :
    (db.upsertLink q treasuryId f).treasuries = db.treasuries ∧
      (db.upsertLink q treasuryId f).movimentos = db.movimentos ∧
      (db.upsertLink q treasuryId f).payments = db.payments ∧
      (db.upsertLink q treasuryId f).alocacoes = db.alocacoes ∧
      (db.upsertLink q treasuryId f).entries = db.entries ∧
      (db.upsertLink q treasuryId f).nextId = db.nextId := by
  unfold Tesourarias.upsertLink
  split <;> exact ⟨rfl, rfl, rfl, rfl, rfl, rfl⟩

end Ligar

/-! ### Giving back -/

section Soltar

variable {db : Tesourarias} {a : TreasuryAllocation}

theorem link?_soltar (treasuryId k alocacaoId q : Id) :
    (db.soltar treasuryId k alocacaoId).link? q = (db.link? q).map fun link =>
      if link.treasuryId = treasuryId && link.movementId = some k then
        { link with movementId := none } else link := by
  unfold Tesourarias.link? Tesourarias.soltar
  rw [List.find?_map]
  congr 2
  funext link
  simp only [Function.comp]
  split <;> rfl

/-- The allocations that are not given back stay. -/
theorem mem_soltar (emDia : db.AlocacoesEmDia) (mem : a ∈ db.alocacoes) {b : TreasuryAllocation}
    (mem_b : b ∈ db.alocacoes) (other : b.chave ≠ a.chave) :
    b ∈ (db.soltar a.treasuryId a.entryId a.id).alocacoes := by
  refine List.mem_filter.mpr ⟨mem_b, ?_⟩
  simp only [decide_not, Bool.not_eq_true', decide_eq_false_iff_not]
  intro same
  exact other (congrArg TreasuryAllocation.chave
    (List.inj_on_of_nodup_map emDia.ids mem_b mem same))

theorem mem_chaves_soltar (emDia : db.AlocacoesEmDia) (mem : a ∈ db.alocacoes) {chave : Id × Id}
    (there : chave ∈ db.alocacoes.map TreasuryAllocation.chave) (other : chave ≠ a.chave) :
    chave ∈ (db.soltar a.treasuryId a.entryId a.id).alocacoes.map TreasuryAllocation.chave := by
  obtain ⟨b, mem_b, rfl⟩ := List.mem_map.mp there
  exact List.mem_map_of_mem (mem_soltar emDia mem mem_b other)

theorem emDia_soltar (emDia : db.EmDia) (mem : a ∈ db.alocacoes) :
    (db.soltar a.treasuryId a.entryId a.id).EmDia where
  alocacoes := emDia.alocacoes.sublist (List.filter_sublist.map _)
  ids := emDia.ids.sublist (List.filter_sublist.map _)
  novos b mem_b := emDia.novos b (List.mem_of_mem_filter mem_b)
  movimentos b mem_b := emDia.movimentos b (List.mem_of_mem_filter mem_b)
  treasuries := emDia.treasuries
  eventos := emDia.eventos
  payments := emDia.payments
  entries := by
    have same : ((db.soltar a.treasuryId a.entryId a.id).entries.map TreasuryEntry.id) =
        db.entries.map TreasuryEntry.id := by
      unfold Tesourarias.soltar
      rw [List.map_map]
      refine List.map_congr_left fun e _ => ?_
      simp only [Function.comp]
      split <;> rfl
    exact same ▸ emDia.entries
  entriesNovas e mem_e := by
    obtain ⟨old, mem_old, rfl⟩ := List.mem_map.mp mem_e
    have bound := emDia.entriesNovas old mem_old
    split <;> exact bound
  ligados p mem_p link found t mem_t event of_event := by
    rw [link?_soltar] at found
    obtain ⟨old, there, rfl⟩ := Option.map_eq_some_iff.mp found
    have treasury := emDia.ligados p mem_p old there t mem_t event of_event
    split <;> exact treasury
  linksAlocados p mem_p link m found movement := by
    rw [link?_soltar] at found
    obtain ⟨old, there, rfl⟩ := Option.map_eq_some_iff.mp found
    split at movement
    · exact nomatch movement
    · next kept =>
        rw [if_neg kept]
        refine mem_chaves_soltar emDia.toAlocacoesEmDia mem
          (emDia.linksAlocados p mem_p old m there movement) fun same => kept ?_
        obtain ⟨treasury, entry⟩ := Prod.mk.inj same
        simp [treasury, movement, entry]
  entriesAlocadas e mem_e m movement := by
    obtain ⟨old, mem_old, rfl⟩ := List.mem_map.mp mem_e
    split at movement
    · exact nomatch movement
    · next kept =>
        rw [if_neg kept]
        refine mem_chaves_soltar emDia.toAlocacoesEmDia mem
          (emDia.entriesAlocadas old mem_old m movement) fun same => kept ?_
        obtain ⟨treasury, entry⟩ := Prod.mk.inj same
        simp [treasury, movement, entry]

/-- Giving back changes the reconciliation of no other allocation. -/
theorem reconciliado_soltar (emDia : db.EmDia) {t : Treasury} (mem_t : t ∈ db.treasuries) {k : Id}
    (other : (t.id, k) ≠ a.chave) :
    (db.soltar a.treasuryId a.entryId a.id).reconciliado t k = db.reconciliado t k := by
  unfold Tesourarias.reconciliado
  congr 1
  · congr 1
    refine List.filter_congr fun p mem_p => ?_
    unfold Tesourarias.conciliadoCom
    rw [link?_soltar]
    cases found : db.link? p.id with
    | none => rfl
    | some link =>
        by_cases line : Tesourarias.contaNa t p = true
        · have event := line
          simp only [Tesourarias.contaNa, Bool.and_eq_true, decide_eq_true_eq] at event
          have treasury := emDia.ligados p mem_p link found t mem_t event.1.1.1 event.1.1.2
          by_cases cleared : link.treasuryId = a.treasuryId ∧ link.movementId = some a.entryId
          · have not_k : a.entryId ≠ k := fun same =>
              other (Prod.ext (treasury.symm.trans cleared.1) same.symm)
            simp [cleared, not_k]
          · simp [cleared]
        · simp [line]
  · refine map_filter_map_eq (fun e _ => ?_) fun e _ => ?_
    · by_cases cleared : e.treasuryId = a.treasuryId ∧ e.movementId = some a.entryId
      · have not_k : e.treasuryId = t.id → a.entryId ≠ k := fun of same =>
          other (Prod.ext (of.symm.trans cleared.1) same.symm)
        by_cases of : e.treasuryId = t.id
        · have different := not_k of
          rw [if_pos (by simpa using cleared)]
          simp [of, cleared.2, different]
        · rw [if_pos (by simpa using cleared)]
          simp [of]
      · rw [if_neg (by simpa using cleared)]
    · split <;> rfl

theorem contaUmaVez_soltar (emDia : db.EmDia) (lei : db.ContaUmaVez) (mem : a ∈ db.alocacoes) :
    (db.soltar a.treasuryId a.entryId a.id).ContaUmaVez := by
  rw [contaUmaVez_iff emDia] at lei
  rw [contaUmaVez_iff (emDia_soltar emDia mem)]
  intro t mem_t b mem_b of m found paired
  obtain ⟨old, kept⟩ := List.mem_filter.mp mem_b
  have other : (t.id, b.entryId) ≠ a.chave := by
    intro same
    have same_row := alocacao_unica emDia.alocacoes old mem (same ▸ Prod.ext of rfl)
    simp [same_row] at kept
  rw [reconciliado_soltar emDia mem_t other] at paired ⊢
  exact lei t mem_t b old of m found paired

end Soltar

/-! ### Reconciling -/

section Conciliar

variable {db depois : Tesourarias}

@[simp] theorem mem_separarIds_pagamentos {ids : List LancamentoId} {id : Id} :
    id ∈ (separarIds ids).1 ↔ .pagamento id ∈ ids := by
  simp only [separarIds, List.mem_filterMap]
  constructor
  · rintro ⟨other, mem, same⟩
    cases other with
    | pagamento id' => exact Option.some.inj same ▸ mem
    | manual id' => exact nomatch same
  · exact fun mem => ⟨_, mem, rfl⟩

@[simp] theorem mem_separarIds_manuais {ids : List LancamentoId} {id : Id} :
    id ∈ (separarIds ids).2 ↔ .manual id ∈ ids := by
  simp only [separarIds, List.mem_filterMap]
  constructor
  · rintro ⟨other, mem, same⟩
    cases other with
    | pagamento id' => exact nomatch same
    | manual id' => exact Option.some.inj same ▸ mem
  · exact fun mem => ⟨_, mem, rfl⟩

/-- The links of `conciliar`. -/
def ligar (db : Tesourarias) (id movimentoId : Id) (pagamentos : List Id) : Tesourarias :=
  pagamentos.foldl
    (fun db paymentId => db.upsertLink paymentId id (.conciliarCom movimentoId)) db

theorem link?_ligar (id k q : Id) (pagamentos : List Id) :
    ∀ db : Tesourarias, (ligar db id k pagamentos).link? q =
      if q ∈ pagamentos then
        some (((db.link? q).getD ⟨q, id, none, none⟩).conciliarCom k)
      else db.link? q := by
  induction pagamentos with
  | nil => exact fun db => rfl
  | cons first rest ih =>
      intro db
      have step := ih (db.upsertLink first id (.conciliarCom k))
      unfold ligar at step ⊢
      rw [List.foldl_cons, step, link?_upsertLink (f := .conciliarCom k) fun _ => rfl]
      by_cases here : q = first
      · subst here
        by_cases later : q ∈ rest <;> simp [later, TreasuryPaymentLink.conciliarCom]
      · by_cases later : q ∈ rest <;> simp [here, later]

theorem ligar_rest (id k : Id) (pagamentos : List Id) :
    ∀ db : Tesourarias, (ligar db id k pagamentos).treasuries = db.treasuries ∧
      (ligar db id k pagamentos).movimentos = db.movimentos ∧
      (ligar db id k pagamentos).payments = db.payments ∧
      (ligar db id k pagamentos).alocacoes = db.alocacoes ∧
      (ligar db id k pagamentos).entries = db.entries ∧
      (ligar db id k pagamentos).nextId = db.nextId := by
  induction pagamentos with
  | nil => exact fun db => ⟨rfl, rfl, rfl, rfl, rfl, rfl⟩
  | cons first rest ih =>
      intro db
      obtain ⟨t, m, p, a, e, n⟩ := ih (db.upsertLink first id (.conciliarCom k))
      obtain ⟨t', m', p', a', e', n'⟩ := upsertLink_rest db first id (.conciliarCom k)
      exact ⟨t.trans t', m.trans m', p.trans p', a.trans a', e.trans e', n.trans n'⟩

/-- No two lines of a treasury have the same id. -/
theorem sistema_ids (emDia : db.EmDia) (t : Treasury) :
    ((db.sistema t).map fun l => l.lancamento.id).Nodup := by
  have sorted := (List.perm_insertionSort (fun a b => b.lancamento.data ≤ a.lancamento.data)
    ((db.payments.filter (Tesourarias.contaNa t)).map db.linhaDoPagamento ++
      (db.entries.filter fun m => m.treasuryId = t.id).map Tesourarias.linhaDoManual)).map fun l =>
        l.lancamento.id
  refine sorted.nodup_iff.mpr ?_
  rw [List.map_append, List.map_map, List.map_map]
  refine List.Nodup.append ?_ ?_ ?_
  · have ids : ((db.payments.filter (Tesourarias.contaNa t)).map Payment.id).Nodup :=
      emDia.payments.sublist (List.filter_sublist.map _)
    have images := ids.map fun a b same => LancamentoId.pagamento.inj same
    rwa [List.map_map] at images
  · have ids : ((db.entries.filter fun m => m.treasuryId = t.id).map TreasuryEntry.id).Nodup :=
      emDia.entries.sublist (List.filter_sublist.map _)
    have images := ids.map fun a b same => LancamentoId.manual.inj same
    rwa [List.map_map] at images
  · intro id mem mem'
    obtain ⟨p, _, rfl⟩ := List.mem_map.mp mem
    obtain ⟨m, _, same⟩ := List.mem_map.mp mem'
    exact nomatch same

theorem mem_sistema {t : Treasury} {l : LinhaDoSistema} :
    l ∈ db.sistema t ↔
      (∃ p ∈ db.payments, Tesourarias.contaNa t p ∧ db.linhaDoPagamento p = l) ∨
        ∃ e ∈ db.entries, e.treasuryId = t.id ∧ Tesourarias.linhaDoManual e = l := by
  unfold Tesourarias.sistema
  rw [(List.perm_insertionSort _ _).mem_iff, List.mem_append]
  simp [List.mem_map, List.mem_filter, and_assoc]

/-- A reconciliation that went through. -/
structure Conciliou (db : Tesourarias) (t : Treasury) (k : Id) (ids : List LancamentoId)
    (doBanco : Int) : Prop where
  mem_t : t ∈ db.treasuries
  /-- every id is a line of the treasury, and none is reconciled -/
  linhas : ∀ id ∈ ids, ∃ l ∈ db.sistema t, l.lancamento.id = id
  livres : ∀ l ∈ db.sistema t, l.lancamento.id ∈ ids → l.movimentoId = none
  /-- nothing is reconciled with the movement -/
  semPar : ∀ l ∈ db.sistema t, l.movimentoId ≠ some k
  movimento : ∃ m, db.entry? k = some m ∧
    (((db.sistema t).filter fun l => l.lancamento.id ∈ ids).map LinhaDoSistema.comSinal).sum =
      comSinal m.type doBanco
  doBanco : ∀ aqui, db.alocacao? t.id k = some aqui → doBanco = aqui.amount

theorem conciliar_ok {brl : Int → String} {id k : Id} {ids : List LancamentoId} (emDia : db.EmDia)
    (ok : db.conciliar brl id k ids = .ok depois) :
    ∃ t doBanco categoria, t.id = id ∧ Conciliou db t k ids doBanco ∧
      depois = db.gravarConciliacao id k doBanco categoria ids := by
  unfold Tesourarias.conciliar at ok
  simp only [bind_eq_ok_iff, orFail_eq_ok_iff, failIf_eq_ok_iff, pure_eq_ok_iff] at ok
  obtain ⟨t, opened, primeiro, _, _, length, _, livres, _, semPar, m, movimento, doBanco, read, _,
    soma, rfl⟩ := ok
  obtain ⟨mem_t, t_id⟩ := exigirAberta_ok opened
  refine ⟨t, doBanco, _, t_id, ⟨mem_t, fun id mem => ?_, fun l mem marked => ?_, fun l mem => ?_,
    ⟨m, movimento?_entry movimento, not_not.mp soma⟩, fun aqui found => ?_⟩, rfl⟩
  · -- as many lines as ids, and no line twice
    set marcados := (db.sistema t).filter fun l => l.lancamento.id ∈ ids with marcados_def
    have nodup : (marcados.map fun l => l.lancamento.id).Nodup :=
      (sistema_ids emDia t).sublist (List.filter_sublist.map _)
    have inside : (marcados.map fun l => l.lancamento.id) ⊆ ids.eraseDups := by
      intro id' mem'
      obtain ⟨l, mem_l, rfl⟩ := List.mem_map.mp mem'
      have named := (List.mem_filter.mp mem_l).2
      exact List.mem_eraseDups.mpr (by simpa using named)
    have all := (List.subperm_of_subset nodup inside).perm_of_length_le (by
      rw [List.length_map, not_not.mp length])
    obtain ⟨l, mem_l, same⟩ := List.mem_map.mp (all.mem_iff.mpr (List.mem_eraseDups.mpr mem))
    exact ⟨l, (List.mem_filter.mp mem_l).1, same⟩
  · have free : l.situacao ≠ .conciliado := fun conciliado => livres (List.any_eq_true.mpr
      ⟨l, List.mem_filter.mpr ⟨mem, by simpa using marked⟩, by simpa using conciliado⟩)
    by_contra reconciled
    refine free ?_
    rcases mem_sistema.mp mem with ⟨p, _, _, rfl⟩ | ⟨e, _, _, rfl⟩
    · exact if_pos (Option.isSome_iff_ne_none.mpr reconciled)
    · exact if_pos (Option.isSome_iff_ne_none.mpr reconciled)
  · intro here
    exact semPar (List.any_eq_true.mpr ⟨l, mem, by simpa using here⟩)
  · unfold Tesourarias.doBanco at read
    rw [found] at read
    exact (pure_eq_ok_iff.mp read).symm

/-- The allocation of `conciliar`: the one there is, or a new one with what was left. -/
structure Alocou (db : Tesourarias) (treasuryId k : Id) (doBanco : Int) (criada : Tesourarias) :
    Prop where
  same : MesmasLinhas db criada
  emDia : criada.AlocacoesEmDia
  contador : db.nextId ≤ criada.nextId
  antigas : ∀ b ∈ criada.alocacoes, b ∈ db.alocacoes ∨ b.chave = (treasuryId, k)
  valor : ∀ b ∈ criada.alocacoes, b.chave = (treasuryId, k) → b.amount = doBanco
  chaves : ∀ chave ∈ db.alocacoes.map TreasuryAllocation.chave,
    chave ∈ criada.alocacoes.map TreasuryAllocation.chave
  chave : (treasuryId, k) ∈ criada.alocacoes.map TreasuryAllocation.chave

theorem alocou {t : Treasury} {k : Id} {ids : List LancamentoId} {doBanco : Int}
    (emDia : db.EmDia) (done : Conciliou db t k ids doBanco) (categoria : String) :
    Alocou db t.id k doBanco (match db.alocacao? t.id k with
      | some _ => db
      | none => db.criarAlocacao t.id k doBanco (some categoria)) := by
  cases found : db.alocacao? t.id k with
  | some aqui =>
      have there : (t.id, k) ∈ db.alocacoes.map TreasuryAllocation.chave :=
        alocacao?_isSome_iff.mp (by rw [found]; rfl)
      have mem := List.mem_of_find?_eq_some found
      have named : aqui.treasuryId = t.id ∧ aqui.entryId = k := by
        simpa using List.find?_some found
      exact
        { same := ⟨rfl, rfl, rfl, rfl, rfl⟩
          emDia := emDia.toAlocacoesEmDia
          contador := le_rfl
          antigas := fun b mem_b => .inl mem_b
          valor := fun b mem_b same => by
            rw [done.doBanco aqui found, alocacao_unica emDia.alocacoes mem_b mem
              (same.trans (Prod.ext named.1.symm named.2.symm))]
          chaves := fun chave mem_chave => mem_chave
          chave := there }
  | none =>
      have new : (t.id, k) ∉ db.alocacoes.map TreasuryAllocation.chave := by
        rw [← alocacao?_isSome_iff, found]
        exact Bool.false_ne_true
      obtain ⟨m, movimento, _⟩ := done.movimento
      exact
        { same := ⟨rfl, rfl, rfl, rfl, rfl⟩
          emDia := emDia.toAlocacoesEmDia.criarAlocacao new (by rw [movimento]; rfl) _ _
          contador := Nat.le_succ _
          antigas := fun b mem_b => by
            rcases List.mem_append.mp mem_b with old | born
            · exact .inl old
            · obtain rfl := List.mem_singleton.mp born
              exact .inr rfl
          valor := fun b mem_b same => by
            rcases List.mem_append.mp mem_b with old | born
            · exact absurd (same ▸ List.mem_map_of_mem old) new
            · obtain rfl := List.mem_singleton.mp born
              rfl
          chaves := fun chave mem_chave => by
            rw [criarAlocacao_alocacoes, List.map_append]
            exact List.mem_append_left _ mem_chave
          chave := by
            rw [criarAlocacao_alocacoes, List.map_append]
            exact List.mem_append_right _ (List.mem_singleton.mpr rfl) }

/-- The tables after `conciliar`. -/
structure GravouConciliacao (db : Tesourarias) (t : Treasury) (k : Id) (ids : List LancamentoId)
    (doBanco : Int) (depois : Tesourarias) : Prop where
  treasuries : depois.treasuries = db.treasuries
  movimentos : depois.movimentos = db.movimentos
  payments : depois.payments = db.payments
  links : ∀ q, depois.link? q =
    if q ∈ (separarIds ids).1 then
      some (((db.link? q).getD ⟨q, t.id, none, none⟩).conciliarCom k)
    else db.link? q
  entries : depois.entries = db.entries.map fun e =>
    if e.id ∈ (separarIds ids).2 && e.treasuryId = t.id then e.conciliarCom k else e
  alocou : ∃ criada, Alocou db t.id k doBanco criada ∧
    depois.alocacoes = criada.alocacoes ∧ depois.nextId = criada.nextId

theorem gravarConciliacao_spec {t : Treasury} {k : Id} {ids : List LancamentoId} {doBanco : Int}
    (emDia : db.EmDia) (done : Conciliou db t k ids doBanco) (categoria : String) :
    GravouConciliacao db t k ids doBanco (db.gravarConciliacao t.id k doBanco categoria ids) := by
  have alocacao := alocou emDia done categoria
  unfold Tesourarias.gravarConciliacao
  set criada := (match db.alocacao? t.id k with
    | some _ => db
    | none => db.criarAlocacao t.id k doBanco (some categoria)) with criada_def
  obtain ⟨treasuries, movimentos, payments, alocacoes, entries, nextId⟩ :=
    ligar_rest t.id k (separarIds ids).1 criada
  have link : ∀ q, criada.link? q = db.link? q := fun q => by
    unfold Tesourarias.link?
    rw [alocacao.same.links]
  refine ⟨treasuries.trans alocacao.same.treasuries, movimentos.trans alocacao.same.movimentos,
    payments.trans alocacao.same.payments, fun q => ?_, ?_, ?_⟩
  · have linked := link?_ligar t.id k q (separarIds ids).1 criada
    rw [link] at linked
    exact linked
  · rw [← alocacao.same.entries, ← entries]
    rfl
  · exact ⟨criada, alocacao, alocacoes, nextId⟩

/-- A payment of the ids is a line of the treasury, with no movement. -/
theorem Conciliou.pagamento {t : Treasury} {k : Id} {ids : List LancamentoId} {doBanco : Int}
    (emDia : db.EmDia) (done : Conciliou db t k ids doBanco) {p : Payment} (mem : p ∈ db.payments)
    (named : p.id ∈ (separarIds ids).1) :
    Tesourarias.contaNa t p ∧ db.conciliadoCom p.id = none := by
  rw [mem_separarIds_pagamentos] at named
  obtain ⟨l, mem_l, same⟩ := done.linhas _ named
  have free := done.livres l mem_l (same ▸ named)
  rcases mem_sistema.mp mem_l with ⟨p', mem_p', line, rfl⟩ | ⟨e, _, _, rfl⟩
  · obtain rfl := List.inj_on_of_nodup_map emDia.payments mem_p' mem
      (LancamentoId.pagamento.inj same)
    exact ⟨line, free⟩
  · exact nomatch same

/-- A manual entry of the ids, in the treasury, has no movement. -/
theorem Conciliou.manual {t : Treasury} {k : Id} {ids : List LancamentoId} {doBanco : Int}
    (done : Conciliou db t k ids doBanco) {e : TreasuryEntry} (mem : e ∈ db.entries)
    (of : e.treasuryId = t.id) (named : e.id ∈ (separarIds ids).2) : e.movementId = none :=
  done.livres (Tesourarias.linhaDoManual e) (mem_sistema.mpr (.inr ⟨e, mem, of, rfl⟩))
    (mem_separarIds_manuais.mp named)

section GravouConciliacao

variable {t : Treasury} {k : Id} {ids : List LancamentoId} {doBanco : Int}

theorem GravouConciliacao.conciliadoCom (gravou : GravouConciliacao db t k ids doBanco depois)
    (q : Id) :
    depois.conciliadoCom q =
      if q ∈ (separarIds ids).1 then some k else db.conciliadoCom q := by
  unfold Tesourarias.conciliadoCom
  rw [gravou.links]
  split <;> rfl

/-- The reconciliation of no other allocation changes. -/
theorem GravouConciliacao.outras (emDia : db.EmDia) (done : Conciliou db t k ids doBanco)
    (gravou : GravouConciliacao db t k ids doBanco depois) {t' : Treasury}
    (mem_t' : t' ∈ db.treasuries) {k' : Id} (other : (t'.id, k') ≠ (t.id, k)) :
    depois.reconciliado t' k' = db.reconciliado t' k' := by
  unfold Tesourarias.reconciliado
  rw [gravou.payments, gravou.entries]
  congr 1
  · congr 1
    refine List.filter_congr fun p mem_p => ?_
    rw [gravou.conciliadoCom]
    by_cases named : p.id ∈ (separarIds ids).1
    · obtain ⟨line, free⟩ := done.pagamento emDia mem_p named
      rw [if_pos named, free]
      by_cases line' : Tesourarias.contaNa t' p = true
      · -- the event of the payment has one treasury
        have event := line
        have event' := line'
        simp only [Tesourarias.contaNa, Bool.and_eq_true, decide_eq_true_eq] at event event'
        obtain rfl := emDia.eventos t done.mem_t t' mem_t' event.1.1.1
          (event.1.1.2.symm.trans event'.1.1.2)
        have not_k : k ≠ k' := fun same => other (by rw [same])
        simp [not_k]
      · simp [line']
    · rw [if_neg named]
  · refine map_filter_map_eq (fun e mem_e => ?_) fun e _ => by split <;> rfl
    by_cases changed : e.id ∈ (separarIds ids).2 ∧ e.treasuryId = t.id
    · have free := done.manual mem_e changed.2 changed.1
      rw [if_pos (by simpa using changed), free]
      by_cases of : e.treasuryId = t'.id
      · have not_k : k ≠ k' := fun same => other (by rw [same, ← of, changed.2])
        simp [TreasuryEntry.conciliarCom, not_k]
      · simp [TreasuryEntry.conciliarCom, of]
    · rw [if_neg (by simpa using changed)]

/-- What is reconciled with the movement now are the marked lines. -/
theorem GravouConciliacao.marcadas (done : Conciliou db t k ids doBanco)
    (gravou : GravouConciliacao db t k ids doBanco depois) :
    (depois.reconciliado t k).sum =
      (((db.sistema t).filter fun l => l.lancamento.id ∈ ids).map LinhaDoSistema.comSinal).sum := by
  have sorted := (((List.perm_insertionSort (fun a b => b.lancamento.data ≤ a.lancamento.data)
    ((db.payments.filter (Tesourarias.contaNa t)).map db.linhaDoPagamento ++
      (db.entries.filter fun m => m.treasuryId = t.id).map Tesourarias.linhaDoManual)).filter
      fun l => l.lancamento.id ∈ ids).map LinhaDoSistema.comSinal)
  refine Eq.trans ?_ sorted.sum_eq.symm
  simp only [List.filter_append, List.map_append, List.filter_map, List.map_map, List.filter_filter,
    Tesourarias.reconciliado, gravou.payments, gravou.entries]
  congr 2
  · congr 1
    refine List.filter_congr fun p mem_p => ?_
    rw [gravou.conciliadoCom]
    by_cases named : p.id ∈ (separarIds ids).1
    · have there := mem_separarIds_pagamentos.mp named
      simp [named, Tesourarias.linhaDoPagamento, there]
    · have absent : LancamentoId.pagamento p.id ∉ ids := fun there =>
        named (mem_separarIds_pagamentos.mpr there)
      by_cases line : Tesourarias.contaNa t p = true
      · have unpaired := done.semPar _ (mem_sistema.mpr (.inl ⟨p, mem_p, line, rfl⟩))
        have not_k : db.conciliadoCom p.id ≠ some k := unpaired
        simp [named, Tesourarias.linhaDoPagamento, absent, not_k]
      · simp [line]
  · rw [← List.map_map, ← List.filter_map]
    refine map_filter_map_eq (v := fun e : TreasuryEntry => comSinal e.type e.amount)
      (fun e mem_e => ?_) fun e _ => ?_
    · by_cases of : e.treasuryId = t.id
      · by_cases named : e.id ∈ (separarIds ids).2
        · have there := mem_separarIds_manuais.mp named
          rw [if_pos (by simpa using ⟨there, of⟩)]
          simp [TreasuryEntry.conciliarCom, of, Tesourarias.linhaDoManual, there]
        · have absent : LancamentoId.manual e.id ∉ ids := fun there =>
            named (mem_separarIds_manuais.mpr there)
          have unpaired := done.semPar _ (mem_sistema.mpr (.inr ⟨e, mem_e, of, rfl⟩))
          have not_k : e.movementId ≠ some k := unpaired
          rw [if_neg (by simp [absent])]
          simp [Tesourarias.linhaDoManual, absent, not_k]
      · rw [if_neg (by simp [of])]
        simp [of]
    · split <;> rfl

theorem GravouConciliacao.contaUmaVez (emDia : db.EmDia) (emDia' : depois.EmDia)
    (lei : db.ContaUmaVez)
    (done : Conciliou db t k ids doBanco) (gravou : GravouConciliacao db t k ids doBanco depois) :
    depois.ContaUmaVez := by
  rw [contaUmaVez_iff emDia] at lei
  rw [contaUmaVez_iff emDia']
  intro t' mem_t' b mem_b of m found paired
  rw [gravou.treasuries] at mem_t'
  have found : db.entry? b.entryId = some m := by
    unfold Tesourarias.entry? at found ⊢
    rwa [gravou.movimentos] at found
  obtain ⟨criada, alocacao, alocacoes, _⟩ := gravou.alocou
  rw [alocacoes] at mem_b
  by_cases here : (t'.id, b.entryId) = (t.id, k)
  · obtain ⟨same_t, entry⟩ := Prod.mk.inj here
    obtain rfl := List.inj_on_of_nodup_map emDia.treasuries mem_t' done.mem_t same_t
    obtain ⟨m', movimento, soma⟩ := done.movimento
    rw [entry] at found
    obtain rfl := Option.some.inj (movimento.symm.trans found)
    rw [entry, gravou.marcadas done, soma, alocacao.valor b mem_b (Prod.ext of entry)]
  · have old : b ∈ db.alocacoes := by
      refine (alocacao.antigas b mem_b).resolve_right fun same => here ?_
      rw [← of]
      exact same
    rw [gravou.outras emDia done mem_t' here] at paired ⊢
    exact lei t' mem_t' b old of m found paired

theorem GravouConciliacao.emDia_depois (emDia : db.EmDia) (done : Conciliou db t k ids doBanco)
    (gravou : GravouConciliacao db t k ids doBanco depois) : depois.EmDia := by
  obtain ⟨criada, alocacao, alocacoes, nextId⟩ := gravou.alocou
  have entry : ∀ q, depois.entry? q = criada.entry? q := fun q => by
    unfold Tesourarias.entry?
    rw [gravou.movimentos, alocacao.same.movimentos]
  have ids_entries : depois.entries.map TreasuryEntry.id = db.entries.map TreasuryEntry.id := by
    rw [gravou.entries, List.map_map]
    refine List.map_congr_left fun e _ => ?_
    simp only [Function.comp]
    split <;> rfl
  refine ⟨⟨?_, ?_, ?_, ?_⟩, ?_, ?_, ?_, ?_, ?_, ?_, ?_, ?_⟩
  · rw [alocacoes]; exact alocacao.emDia.alocacoes
  · rw [alocacoes]; exact alocacao.emDia.ids
  · rw [alocacoes, nextId]; exact alocacao.emDia.novos
  · intro a mem
    rw [alocacoes] at mem
    rw [entry]
    exact alocacao.emDia.movimentos a mem
  · rw [gravou.treasuries]; exact emDia.treasuries
  · rw [gravou.treasuries]; exact emDia.eventos
  · rw [gravou.payments]; exact emDia.payments
  · rw [ids_entries]; exact emDia.entries
  · intro e mem
    rw [gravou.entries] at mem
    obtain ⟨old, mem_old, rfl⟩ := List.mem_map.mp mem
    have bound := (emDia.entriesNovas old mem_old).trans_le alocacao.contador
    rw [nextId]
    split <;> exact bound
  · intro p mem link found t' mem_t' event of_event
    rw [gravou.payments] at mem
    rw [gravou.treasuries] at mem_t'
    rw [gravou.links] at found
    split at found
    · next named =>
        obtain rfl := Option.some.inj found
        have line := (done.pagamento emDia mem named).1
        simp only [Tesourarias.contaNa, Bool.and_eq_true, decide_eq_true_eq] at line
        obtain rfl := emDia.eventos t done.mem_t t' mem_t' line.1.1.1
          (line.1.1.2.symm.trans of_event)
        cases there : db.link? p.id with
        | none => rfl
        | some old => exact emDia.ligados p mem old there t mem_t' event of_event
    · exact emDia.ligados p mem link found t' mem_t' event of_event
  · intro p mem link m found movement
    rw [gravou.payments] at mem
    rw [gravou.links] at found
    rw [alocacoes]
    split at found
    · next named =>
        obtain rfl := Option.some.inj found
        obtain rfl := Option.some.inj movement
        have line := (done.pagamento emDia mem named).1
        simp only [Tesourarias.contaNa, Bool.and_eq_true, decide_eq_true_eq] at line
        have treasury : (((db.link? p.id).getD ⟨p.id, t.id, none, none⟩).conciliarCom
            k).treasuryId = t.id := by
          cases there : db.link? p.id with
          | none => rfl
          | some old => exact emDia.ligados p mem old there t done.mem_t line.1.1.1 line.1.1.2
        rw [treasury]
        exact alocacao.chave
    · exact alocacao.chaves _ (emDia.linksAlocados p mem link m found movement)
  · intro e mem m movement
    rw [gravou.entries] at mem
    rw [alocacoes]
    obtain ⟨old, mem_old, rfl⟩ := List.mem_map.mp mem
    split at movement
    · next changed =>
        rw [if_pos changed]
        simp only [Bool.and_eq_true, decide_eq_true_eq] at changed
        obtain rfl := Option.some.inj movement
        have treasury : (old.conciliarCom k).treasuryId = t.id := changed.2
        rw [treasury]
        exact alocacao.chave
    · next kept =>
        rw [if_neg kept]
        exact alocacao.chaves _ (emDia.entriesAlocadas old mem_old m movement)

end GravouConciliacao

end Conciliar

/-! ### Operations that reconcile nothing -/

section SemConciliar

variable {db depois : Tesourarias}

/-- An operation that keeps the movement of every link and manual entry, the treasury of every link
of a payment, the payments and the allocations. -/
structure SemConciliar (db depois : Tesourarias) : Prop where
  treasuries : depois.treasuries = db.treasuries
  movimentos : depois.movimentos = db.movimentos
  payments : depois.payments = db.payments
  alocacoes : depois.alocacoes = db.alocacoes
  contador : db.nextId ≤ depois.nextId
  conciliadoCom : ∀ q, depois.conciliadoCom q = db.conciliadoCom q
  ligados : ∀ p ∈ db.payments, ∀ link, depois.link? p.id = some link →
    (∃ old, db.link? p.id = some old ∧ link.treasuryId = old.treasuryId) ∨
      ∃ t ∈ db.treasuries, link.treasuryId = t.id ∧ t.eventId.isSome ∧ p.eventId = t.eventId
  ids : (depois.entries.map TreasuryEntry.id).Nodup
  novas : ∀ e ∈ depois.entries, e.id < depois.nextId
  alocadas : ∀ e ∈ depois.entries, ∀ m, e.movementId = some m →
    ∃ old ∈ db.entries, old.treasuryId = e.treasuryId ∧ old.movementId = some m
  manuais : ∀ (t : Treasury) (k : Id),
    ((depois.entries.filter fun e => e.treasuryId = t.id && e.movementId = some k).map fun e =>
      comSinal e.type e.amount) =
    ((db.entries.filter fun e => e.treasuryId = t.id && e.movementId = some k).map fun e =>
      comSinal e.type e.amount)

theorem SemConciliar.emDia_depois (emDia : db.EmDia) (same : SemConciliar db depois) :
    depois.EmDia := by
  have entry : ∀ q, depois.entry? q = db.entry? q := fun q => by
    unfold Tesourarias.entry?
    rw [same.movimentos]
  have treasury : ∀ p ∈ db.payments, ∀ link, depois.link? p.id = some link →
      ∀ t ∈ db.treasuries, t.eventId.isSome → p.eventId = t.eventId → link.treasuryId = t.id := by
    intro p mem link found t mem_t event of_event
    rcases same.ligados p mem link found with
        ⟨old, there, kept⟩ | ⟨t', mem_t', of, event', of_event'⟩
    · exact kept.trans (emDia.ligados p mem old there t mem_t event of_event)
    · obtain rfl := emDia.eventos t' mem_t' t mem_t event' (of_event'.symm.trans of_event)
      exact of
  refine ⟨⟨?_, ?_, ?_, ?_⟩, ?_, ?_, ?_, same.ids, same.novas, ?_, ?_, ?_⟩
  · rw [same.alocacoes]; exact emDia.alocacoes
  · rw [same.alocacoes]; exact emDia.ids
  · rw [same.alocacoes]; exact fun a mem => (emDia.novos a mem).trans_le same.contador
  · intro a mem
    rw [same.alocacoes] at mem
    rw [entry]
    exact emDia.movimentos a mem
  · rw [same.treasuries]; exact emDia.treasuries
  · rw [same.treasuries]; exact emDia.eventos
  · rw [same.payments]; exact emDia.payments
  · rw [same.payments, same.treasuries]; exact treasury
  · intro p mem link m found movement
    rw [same.payments] at mem
    rw [same.alocacoes]
    have reconciled := same.conciliadoCom p.id
    unfold Tesourarias.conciliadoCom at reconciled
    rw [found, Option.bind_some, movement] at reconciled
    obtain ⟨old, there, old_movement⟩ := Option.bind_eq_some_iff.mp reconciled.symm
    have alocada := emDia.linksAlocados p mem old m there old_movement
    rcases same.ligados p mem link found with ⟨old', there', kept⟩ |
      ⟨t, mem_t, of, event, of_event⟩
    · obtain rfl := Option.some.inj (there.symm.trans there')
      exact kept ▸ alocada
    · rw [of, ← emDia.ligados p mem old there t mem_t event of_event]
      exact alocada
  · intro e mem m movement
    obtain ⟨old, mem_old, of, old_movement⟩ := same.alocadas e mem m movement
    rw [same.alocacoes, ← of]
    exact emDia.entriesAlocadas old mem_old m old_movement

theorem SemConciliar.contaUmaVez (emDia : db.EmDia) (lei : db.ContaUmaVez)
    (same : SemConciliar db depois) : depois.ContaUmaVez := by
  rw [contaUmaVez_iff emDia] at lei
  rw [contaUmaVez_iff (same.emDia_depois emDia)]
  have reconciliado : ∀ (t : Treasury) (k : Id),
      depois.reconciliado t k = db.reconciliado t k := fun t k => by
    unfold Tesourarias.reconciliado
    rw [same.manuais, same.payments]
    congr 2
    exact List.filter_congr fun p _ => by rw [same.conciliadoCom]
  intro t mem_t a mem of m found paired
  rw [same.treasuries] at mem_t
  rw [same.alocacoes] at mem
  rw [reconciliado] at paired ⊢
  refine lei t mem_t a mem of m ?_ paired
  unfold Tesourarias.entry? at found ⊢
  rwa [same.movimentos] at found

/-- The marks of `naoConsta` on the links of these payments. -/
structure Marcou (db : Tesourarias) (id : Id) (validos : List Payment) (depois : Tesourarias) :
    Prop where
  conciliadoCom : ∀ q, depois.conciliadoCom q = db.conciliadoCom q
  ligados : ∀ q link, depois.link? q = some link →
    (∃ old, db.link? q = some old ∧ link.treasuryId = old.treasuryId) ∨
      (link.treasuryId = id ∧ ∃ p ∈ validos, p.id = q)
  resto : depois.treasuries = db.treasuries ∧ depois.movimentos = db.movimentos ∧
    depois.payments = db.payments ∧ depois.alocacoes = db.alocacoes ∧
    depois.entries = db.entries ∧ depois.nextId = db.nextId

theorem marcou_upsertLink (db : Tesourarias) (id : Id) (quando : Option Instant) (p : Payment) :
    Marcou db id [p] (db.upsertLink p.id id (.marcar quando)) where
  conciliadoCom q := by
    unfold Tesourarias.conciliadoCom
    rw [link?_upsertLink (f := .marcar quando) fun _ => rfl]
    split
    · next here =>
        subst here
        cases db.link? p.id <;> rfl
    · rfl
  ligados q link found := by
    rw [link?_upsertLink (f := .marcar quando) fun _ => rfl] at found
    split at found
    · next here =>
        subst here
        obtain rfl := Option.some.inj found
        cases there : db.link? p.id with
        | none => exact .inr ⟨rfl, p, List.mem_cons_self, rfl⟩
        | some old => exact .inl ⟨old, rfl, rfl⟩
    · exact .inl ⟨link, found, rfl⟩
  resto := upsertLink_rest db p.id id (.marcar quando)

theorem marcou_foldl (id : Id) (quando : Option Instant) (reconciled : Id → Bool)
    (validos : List Payment) :
    ∀ db : Tesourarias, Marcou db id validos (validos.foldl (fun atual p =>
      if reconciled p.id then atual else atual.upsertLink p.id id (.marcar quando)) db) := by
  induction validos with
  | nil => exact fun db => ⟨fun _ => rfl, fun _ link found => .inl ⟨link, found, rfl⟩,
      rfl, rfl, rfl, rfl, rfl, rfl⟩
  | cons p validos ih =>
      intro db
      rw [List.foldl_cons]
      have rest := ih (if reconciled p.id then db else db.upsertLink p.id id (.marcar quando))
      have first : Marcou db id [p]
          (if reconciled p.id then db else db.upsertLink p.id id (.marcar quando)) := by
        split
        · exact ⟨fun _ => rfl, fun _ link found => .inl ⟨link, found, rfl⟩, rfl, rfl, rfl, rfl, rfl,
            rfl⟩
        · exact marcou_upsertLink db id quando p
      obtain ⟨t, m, ps, a, e, n⟩ := first.resto
      obtain ⟨t', m', ps', a', e', n'⟩ := rest.resto
      refine ⟨fun q => (rest.conciliadoCom q).trans (first.conciliadoCom q), fun q link found => ?_,
        t'.trans t, m'.trans m, ps'.trans ps, a'.trans a, e'.trans e, n'.trans n⟩
      rcases rest.ligados q link found with ⟨middle, there, kept⟩ | ⟨of, p', mem, named⟩
      · rcases first.ligados q middle there with ⟨old, there', kept'⟩ | ⟨of, p', mem, named⟩
        · exact .inl ⟨old, there', kept.trans kept'⟩
        · obtain rfl := List.mem_singleton.mp mem
          exact .inr ⟨kept.trans of, p', List.mem_cons_self, named⟩
      · exact .inr ⟨of, p', List.mem_cons_of_mem _ mem, named⟩

/-- Manual entries rewritten in what reconciles nothing. -/
theorem manuais_map {g : TreasuryEntry → TreasuryEntry} (emDia : db.EmDia)
    (rows : depois.entries = db.entries.map g) (nextId : depois.nextId = db.nextId)
    (keeps : ∀ e, (g e).id = e.id ∧ (g e).treasuryId = e.treasuryId ∧
      (g e).movementId = e.movementId ∧ (g e).type = e.type ∧ (g e).amount = e.amount) :
    (depois.entries.map TreasuryEntry.id).Nodup ∧
      (∀ e ∈ depois.entries, e.id < depois.nextId) ∧
      (∀ e ∈ depois.entries, ∀ m, e.movementId = some m →
        ∃ old ∈ db.entries, old.treasuryId = e.treasuryId ∧ old.movementId = some m) ∧
      ∀ (t : Treasury) (k : Id),
        ((depois.entries.filter fun e => e.treasuryId = t.id && e.movementId = some k).map
          fun e => comSinal e.type e.amount) =
        ((db.entries.filter fun e => e.treasuryId = t.id && e.movementId = some k).map fun e =>
          comSinal e.type e.amount) := by
  rw [rows, nextId]
  refine ⟨?_, ?_, ?_, fun t k => map_filter_map_eq (fun e _ => ?_) fun e _ => ?_⟩
  · rw [List.map_map, show TreasuryEntry.id ∘ g = TreasuryEntry.id from
      funext fun e => (keeps e).1]
    exact emDia.entries
  · intro e mem
    obtain ⟨old, mem_old, rfl⟩ := List.mem_map.mp mem
    rw [(keeps old).1]
    exact emDia.entriesNovas old mem_old
  · intro e mem m movement
    obtain ⟨old, mem_old, rfl⟩ := List.mem_map.mp mem
    exact ⟨old, mem_old, (keeps old).2.1.symm, (keeps old).2.2.1.symm.trans movement⟩
  · rw [(keeps e).2.1, (keeps e).2.2.1]
  · rw [(keeps e).2.2.2.1, (keeps e).2.2.2.2]

theorem naoConsta_ok {id : Id} {ids : List LancamentoId} {quando : Option Instant}
    (emDia : db.EmDia) (ok : db.naoConsta id ids quando = .ok depois) :
    SemConciliar db depois := by
  unfold Tesourarias.naoConsta at ok
  simp only [bind_eq_ok_iff, pure_eq_ok_iff] at ok
  obtain ⟨t, opened, rfl⟩ := ok
  obtain ⟨mem_t, t_id⟩ := exigirAberta_ok opened
  have marcou := marcou_foldl id quando (fun q => (db.conciliadoCom q).isSome)
    (db.payments.filter fun p =>
      t.eventId.isSome && p.eventId = t.eventId && p.id ∈ (separarIds ids).1) db
  obtain ⟨treasuries, movimentos, payments, alocacoes, entries, nextId⟩ := marcou.resto
  have rows := congrArg (List.map fun m : TreasuryEntry =>
    if m.id ∈ (separarIds ids).2 && m.treasuryId = id && m.movementId.isNone then m.marcar quando
    else m) entries
  obtain ⟨entry_ids, novas, alocadas, manuais⟩ := @manuais_map db (Tesourarias.modifyEntries
    _ (fun m => m.id ∈ (separarIds ids).2 && m.treasuryId = id && m.movementId.isNone)
    (.marcar quando)) _ emDia rows nextId
    fun e => by split <;> exact ⟨rfl, rfl, rfl, rfl, rfl⟩
  refine
    { treasuries := treasuries
      movimentos := movimentos
      payments := payments
      alocacoes := alocacoes
      contador := nextId.ge
      conciliadoCom := marcou.conciliadoCom
      ligados := fun p mem link found => (marcou.ligados p.id link found).imp (fun old => old) ?_
      ids := entry_ids
      novas := novas
      alocadas := alocadas
      manuais := manuais }
  rintro ⟨of, p', mem_p', named⟩
  obtain ⟨mem_p', valid⟩ := List.mem_filter.mp mem_p'
  obtain rfl := List.inj_on_of_nodup_map emDia.payments mem_p' mem named
  simp only [Bool.and_eq_true, decide_eq_true_eq] at valid
  exact ⟨t, mem_t, of.trans t_id.symm, valid.1.1, valid.1.2⟩

theorem novoLancamento_ok {id : Id} {dto : Tesourarias.LancamentoDto} (emDia : db.EmDia)
    (ok : db.novoLancamento id dto = .ok depois) : SemConciliar db depois := by
  unfold Tesourarias.novoLancamento at ok
  simp only [bind_eq_ok_iff, failIf_eq_ok_iff, pure_eq_ok_iff] at ok
  obtain ⟨t, opened, _, _, _, _, rfl⟩ := ok
  refine
    { treasuries := rfl
      movimentos := rfl
      payments := rfl
      alocacoes := rfl
      contador := Nat.le_succ _
      conciliadoCom := fun _ => rfl
      ligados := fun p mem link found => .inl ⟨link, found, rfl⟩
      ids := ?_
      novas := ?_
      alocadas := ?_
      manuais := ?_ }
  · rw [List.map_append]
    refine emDia.entries.append (List.nodup_singleton _) ?_
    rw [List.map_singleton, List.disjoint_singleton]
    intro mem
    obtain ⟨e, mem_e, same⟩ := List.mem_map.mp mem
    exact absurd same (emDia.entriesNovas e mem_e).ne
  · intro e mem
    rcases List.mem_append.mp mem with old | new
    · exact Nat.lt_succ_of_lt (emDia.entriesNovas e old)
    · obtain rfl := List.mem_singleton.mp new
      exact Nat.lt_succ_self _
  · intro e mem m movement
    rcases List.mem_append.mp mem with old | new
    · exact ⟨e, old, rfl, movement⟩
    · obtain rfl := List.mem_singleton.mp new
      cases movement
  · intro t' k
    rw [List.filter_append]
    simp

end SemConciliar

/-! ### Statuses -/

section Statuses

variable {db : Tesourarias}

/-- One payment apart from the others. -/
theorem reconciliado_perm (ids : (db.payments.map Payment.id).Nodup) {p : Payment}
    (mem : p ∈ db.payments) (t : Treasury) (k : Id) :
    (db.reconciliado t k).Perm
      ((if Tesourarias.contaNa t p && db.conciliadoCom p.id = some k then [cents p.amount] else
        []) ++ db.reconciliadoSem t k p.id) := by
  have unico : db.payments.filter (fun q => decide (q.id = p.id)) = [p] := by
    refine (filter_eq_singleton (List.Nodup.of_map _ ids) p fun q mem_q => ?_).trans (if_pos mem)
    rw [decide_eq_true_iff]
    exact ⟨fun same => List.inj_on_of_nodup_map ids mem_q mem same, fun same => same ▸ rfl⟩
  have apart := (List.filter_append_perm (fun q : Payment => decide (q.id = p.id)) db.payments).symm
  rw [unico] at apart
  have lines := (apart.filter fun q =>
    Tesourarias.contaNa t q && db.conciliadoCom q.id = some k).map fun q => cents q.amount
  unfold Tesourarias.reconciliadoSem Tesourarias.reconciliado
  rw [← List.append_assoc]
  refine List.Perm.append_right _ (lines.trans (List.Perm.of_eq ?_))
  rw [List.filter_append, List.map_append]
  congr 1
  · by_cases line : (Tesourarias.contaNa t p && decide (db.conciliadoCom p.id = some k)) = true <;>
      simp [line]
  · congr 2
    exact List.filter_congr fun q _ => by simp

/-- A payment with the status it changes to. -/
def comStatus (status : PaymentStatus) (p : Payment) : Payment := { p with status := status }

theorem payments_mudarStatus (paymentId : Id) (status : PaymentStatus) (dia : Instant) :
    (db.mudarStatus paymentId status dia).payments =
      db.payments.map fun p => if p.id = paymentId then comStatus status p else p := rfl

theorem emDia_mudarStatus (emDia : db.EmDia) (paymentId : Id) (status : PaymentStatus)
    (dia : Instant) : (db.mudarStatus paymentId status dia).EmDia := by
  have old_of : ∀ p ∈ (db.mudarStatus paymentId status dia).payments, ∃ old ∈ db.payments,
      old.id = p.id ∧ old.eventId = p.eventId := by
    intro p mem
    obtain ⟨old, mem_old, rfl⟩ := List.mem_map.mp mem
    exact ⟨old, mem_old, by split <;> rfl, by split <;> rfl⟩
  refine { emDia with payments := ?_, ligados := ?_, linksAlocados := ?_ }
  · have same : Payment.id ∘ (fun p => if p.id = paymentId then comStatus status p else p) =
        Payment.id := by
      funext p
      simp only [Function.comp]
      split <;> rfl
    rw [payments_mudarStatus, List.map_map, same]
    exact emDia.payments
  · intro p mem link found t mem_t event of_event
    obtain ⟨old, mem_old, same_id, same_event⟩ := old_of p mem
    exact emDia.ligados old mem_old link (same_id ▸ found) t mem_t event
      (same_event.trans of_event)
  · intro p mem link m found movement
    obtain ⟨old, mem_old, same_id, _⟩ := old_of p mem
    exact emDia.linksAlocados old mem_old link m (same_id ▸ found) movement

/-- The other payments and the manual entries do not change. -/
theorem reconciliadoSem_mudarStatus (paymentId : Id) (status : PaymentStatus) (dia : Instant)
    (t : Treasury) (k : Id) :
    (db.mudarStatus paymentId status dia).reconciliadoSem t k paymentId =
      db.reconciliadoSem t k paymentId := by
  unfold Tesourarias.reconciliadoSem
  have others : (db.mudarStatus paymentId status dia).payments.filter
      (fun p => p.id ≠ paymentId) = db.payments.filter fun p => p.id ≠ paymentId := by
    rw [payments_mudarStatus, List.filter_map]
    have selected : (fun p : Payment => decide (p.id ≠ paymentId)) ∘
        (fun p => if p.id = paymentId then comStatus status p else p) =
        fun p => decide (p.id ≠ paymentId) := by
      funext p
      simp only [Function.comp]
      split <;> rfl
    rw [selected]
    refine (List.map_congr_left fun p mem => ?_).trans (List.map_id _)
    have other : p.id ≠ paymentId := by simpa using (List.mem_filter.mp mem).2
    exact if_neg other
  rw [others]
  rfl

/-- When one payment changes its status, the lines of a movement still add up to the allocation
exactly when she was alone in it, or is worth nothing, or comes back with its whole value. -/
theorem mudarStatus_iff {line line' : Prop} [Decidable line] [Decidable line'] {sem : List Int}
    {v alocado : Int} (before : line ∨ sem ≠ [] → (if line then v else 0) + sem.sum = alocado) :
    (line' ∨ sem ≠ [] → (if line' then v else 0) + sem.sum = alocado) ↔
      (line → ¬ line' → sem = [] ∨ v = 0) ∧
        (¬ line → line' → if sem = [] then v = alocado else v = 0) := by
  by_cases was : line
  · have sums := before (.inl was)
    rw [if_pos was] at sums
    by_cases is : line'
    · rw [if_pos is]
      exact iff_of_true (fun _ => sums) ⟨fun _ not => absurd is not, fun not => absurd was not⟩
    · -- it stops being a line
      rw [if_neg is]
      constructor
      · intro after
        refine ⟨fun _ _ => ?_, fun not => absurd was not⟩
        by_cases empty : sem = []
        · exact .inl empty
        · have now := after (.inr empty)
          exact .inr (by omega)
      · rintro ⟨gone, _⟩ still
        have others := still.resolve_left is
        have nothing := (gone was is).resolve_left others
        omega
  · by_cases is : line'
    · -- it becomes a line
      rw [if_pos is]
      constructor
      · intro after
        have now := after (.inl is)
        refine ⟨fun yes => absurd yes was, fun _ _ => ?_⟩
        split
        · next empty =>
            rw [empty, List.sum_nil] at now
            omega
        · next others =>
            have sums := before (.inr others)
            rw [if_neg was] at sums
            omega
      · rintro ⟨_, back⟩ _
        have back := back was is
        split at back
        · next empty =>
            rw [empty, List.sum_nil]
            omega
        · next others =>
            have sums := before (.inr others)
            rw [if_neg was] at sums
            omega
    · rw [if_neg is]
      refine iff_of_true (fun still => ?_) ⟨fun yes => absurd yes was, fun _ yes => absurd yes is⟩
      have sums := before (.inr (still.resolve_left is))
      rw [if_neg was] at sums
      exact sums

/-- The law of one allocation, with one payment apart. -/
theorem lei_linha_iff (ids : (db.payments.map Payment.id).Nodup) {p : Payment}
    (mem : p ∈ db.payments) (t : Treasury) (k : Id) (alocado : Int) :
    (db.reconciliado t k ≠ [] → (db.reconciliado t k).sum = alocado) ↔
      ((Tesourarias.contaNa t p ∧ db.conciliadoCom p.id = some k) ∨
          db.reconciliadoSem t k p.id ≠ [] →
        (if Tesourarias.contaNa t p ∧ db.conciliadoCom p.id = some k then cents p.amount else 0) +
          (db.reconciliadoSem t k p.id).sum = alocado) := by
  have perm := reconciliado_perm ids mem t k
  have empty : db.reconciliado t k = [] ↔ _ = [] :=
    ⟨fun none => List.nil_perm.mp (none ▸ perm), fun none => List.perm_nil.mp (none ▸ perm)⟩
  rw [Ne, empty, perm.sum_eq]
  by_cases line : Tesourarias.contaNa t p = true ∧ db.conciliadoCom p.id = some k
  · have selected :
        (Tesourarias.contaNa t p && decide (db.conciliadoCom p.id = some k)) = true := by
      simpa using line
    rw [if_pos selected, if_pos line]
    simp [line]
  · have selected :
        (Tesourarias.contaNa t p && decide (db.conciliadoCom p.id = some k)) = false := by
      simpa using line
    rw [selected, if_neg Bool.false_ne_true, if_neg line]
    simp [line]

theorem contaNa_iff {t : Treasury} {p : Payment} :
    Tesourarias.contaNa t p = true ↔
      t.eventId.isSome ∧ p.eventId = t.eventId ∧ p.status = .paid ∧ 0 < p.amount := by
  simp [Tesourarias.contaNa, and_assoc]

/-- The condition on a payment, when the treasury and the movement are hers. -/
theorem linha_comStatus {t : Treasury} {p : Payment} {status : PaymentStatus} {reconciled : Prop}
    {gone back : Prop} :
    ((Tesourarias.contaNa t p ∧ reconciled → ¬ (Tesourarias.contaNa t (comStatus status p) ∧
          reconciled) → gone) ∧
        (¬ (Tesourarias.contaNa t p ∧ reconciled) →
          Tesourarias.contaNa t (comStatus status p) ∧ reconciled → back)) ↔
      (0 < p.amount → t.eventId.isSome → p.eventId = t.eventId → reconciled →
        (p.status = .paid → status ≠ .paid → gone) ∧
        (p.status ≠ .paid → status = .paid → back)) := by
  have after : Tesourarias.contaNa t (comStatus status p) = true ↔
      t.eventId.isSome ∧ p.eventId = t.eventId ∧ status = .paid ∧ 0 < p.amount := contaNa_iff
  rw [contaNa_iff, after]
  tauto

/-- What a change of status needs to keep the law. -/
theorem contaUmaVez_mudarStatus (emDia : db.EmDia) (lei : db.ContaUmaVez) (paymentId : Id)
    (status : PaymentStatus) (dia : Instant) :
    (db.mudarStatus paymentId status dia).ContaUmaVez ↔
      MantemAConta db (.mudarStatus paymentId status dia) := by
  have emDia' := emDia_mudarStatus emDia paymentId status dia
  rw [contaUmaVez_iff emDia] at lei
  rw [contaUmaVez_iff emDia']
  by_cases there : ∃ p ∈ db.payments, p.id = paymentId
  · obtain ⟨p, mem_p, rfl⟩ := there
    have mem_p' : comStatus status p ∈ (db.mudarStatus p.id status dia).payments := by
      rw [payments_mudarStatus]
      exact List.mem_map.mpr ⟨p, mem_p, if_pos rfl⟩
    have each : ∀ t ∈ db.treasuries, ∀ a ∈ db.alocacoes, a.treasuryId = t.id → ∀ m,
        db.entry? a.entryId = some m →
        (((db.mudarStatus p.id status dia).reconciliado t a.entryId ≠ [] →
          ((db.mudarStatus p.id status dia).reconciliado t a.entryId).sum =
            comSinal m.type a.amount) ↔
          (0 < p.amount → t.eventId.isSome → p.eventId = t.eventId →
            db.conciliadoCom p.id = some a.entryId →
            (p.status = .paid → status ≠ .paid →
              db.reconciliadoSem t a.entryId p.id = [] ∨ cents p.amount = 0) ∧
            (p.status ≠ .paid → status = .paid →
              if db.reconciliadoSem t a.entryId p.id = [] then
                cents p.amount = comSinal m.type a.amount
              else cents p.amount = 0))) := by
      intro t mem_t a mem of m found
      have before := (lei_linha_iff emDia.payments mem_p t a.entryId _).mp
        (lei t mem_t a mem of m found)
      have after := lei_linha_iff emDia'.payments mem_p' t a.entryId (comSinal m.type a.amount)
      rw [show (comStatus status p).id = p.id from rfl, reconciliadoSem_mudarStatus] at after
      rw [← linha_comStatus]
      exact after.trans (mudarStatus_iff before)
    constructor
    · intro law q mem_q same pos t mem_t event of_event a mem of reconciled m found
      obtain rfl := List.inj_on_of_nodup_map emDia.payments mem_q mem_p same
      exact (each t mem_t a mem of m found).mp (law t mem_t a mem of m found) pos event of_event
        reconciled
    · intro keep t mem_t a mem of m found
      exact (each t mem_t a mem of m found).mpr fun pos event of_event reconciled =>
        keep p mem_p rfl pos t mem_t event of_event a mem of reconciled m found
  · have unchanged : (db.mudarStatus paymentId status dia).payments = db.payments := by
      rw [payments_mudarStatus]
      exact (List.map_congr_left fun p mem => if_neg fun same => there ⟨p, mem, same⟩).trans
        (List.map_id _)
    have same : MesmasLinhas db (db.mudarStatus paymentId status dia) :=
      ⟨rfl, rfl, unchanged, rfl, rfl⟩
    refine iff_of_true (fun t mem_t a mem of m found => ?_)
      fun q mem_q named => absurd ⟨q, mem_q, named⟩ there
    rw [same.reconciliado]
    exact lei t mem_t a mem of m found

end Statuses

/-! ### Runs -/

section Runs

variable {brl : Int → String} {db : Tesourarias} {acao : Tesourarias.Acao}

/-- One operation: the keys hold, and the law holds after it exactly when it keeps the lines and
the allocations equal. -/
theorem contaUmaVez_agir (emDia : db.EmDia) (lei : db.ContaUmaVez) :
    (db.agir brl acao).EmDia ∧ ((db.agir brl acao).ContaUmaVez ↔ MantemAConta db acao) := by
  unfold Tesourarias.agir
  cases acao with
  | distribuir id partes =>
      cases ok : db.distribuir id partes with
      | error falha =>
          simp only [Tesourarias.executar, ok]
          refine ⟨emDia, iff_of_true lei fun isOk => ?_⟩
          rw [ok] at isOk
          exact nomatch isOk
      | ok depois =>
          simp only [Tesourarias.executar, ok]
          have done := distribuir_ok emDia.toAlocacoesEmDia ok
          refine ⟨done.emDia_depois emDia, (contaUmaVez_distribuir emDia lei done).trans ?_⟩
          exact ⟨fun free _ => free, fun free => free (by rw [ok]; rfl)⟩
  | devolver id alocacaoId =>
      cases ok : db.devolver id alocacaoId with
      | error falha =>
          simp only [Tesourarias.executar, ok]
          exact ⟨emDia, iff_of_true lei trivial⟩
      | ok depois =>
          simp only [Tesourarias.executar, ok]
          unfold Tesourarias.devolver at ok
          simp only [bind_eq_ok_iff, orFail_eq_ok_iff, pure_eq_ok_iff] at ok
          obtain ⟨t, _, a, found, rfl⟩ := ok
          have mem := List.mem_of_find?_eq_some found
          have named : a.id = alocacaoId ∧ a.treasuryId = id := by
            simpa using List.find?_some found
          obtain ⟨rfl, rfl⟩ := named
          exact ⟨emDia_soltar emDia mem, iff_of_true (contaUmaVez_soltar emDia lei mem) trivial⟩
  | desfazer id k =>
      cases ok : db.desfazer id k with
      | error falha =>
          simp only [Tesourarias.executar, ok]
          exact ⟨emDia, iff_of_true lei trivial⟩
      | ok depois =>
          simp only [Tesourarias.executar, ok]
          unfold Tesourarias.desfazer at ok
          simp only [bind_eq_ok_iff, orFail_eq_ok_iff, pure_eq_ok_iff] at ok
          obtain ⟨t, _, a, found, rfl⟩ := ok
          have mem := List.mem_of_find?_eq_some found
          have named : a.treasuryId = id ∧ a.entryId = k := by
            simpa using List.find?_some found
          obtain ⟨rfl, rfl⟩ := named
          exact ⟨emDia_soltar emDia mem, iff_of_true (contaUmaVez_soltar emDia lei mem) trivial⟩
  | conciliar id k ids =>
      cases ok : db.conciliar brl id k ids with
      | error falha =>
          simp only [Tesourarias.executar, ok]
          exact ⟨emDia, iff_of_true lei trivial⟩
      | ok depois =>
          simp only [Tesourarias.executar, ok]
          obtain ⟨t, doBanco, categoria, rfl, done, rfl⟩ := conciliar_ok emDia ok
          have gravou := gravarConciliacao_spec emDia done categoria
          have emDia' := gravou.emDia_depois emDia done
          exact ⟨emDia', iff_of_true (gravou.contaUmaVez emDia emDia' lei done) trivial⟩
  | naoConsta id ids quando =>
      cases ok : db.naoConsta id ids quando with
      | error falha =>
          simp only [Tesourarias.executar, ok]
          exact ⟨emDia, iff_of_true lei trivial⟩
      | ok depois =>
          simp only [Tesourarias.executar, ok]
          have same := naoConsta_ok emDia ok
          exact ⟨same.emDia_depois emDia, iff_of_true (same.contaUmaVez emDia lei) trivial⟩
  | novoLancamento id dto =>
      cases ok : db.novoLancamento id dto with
      | error falha =>
          simp only [Tesourarias.executar, ok]
          exact ⟨emDia, iff_of_true lei trivial⟩
      | ok depois =>
          simp only [Tesourarias.executar, ok]
          have same := novoLancamento_ok emDia ok
          exact ⟨same.emDia_depois emDia, iff_of_true (same.contaUmaVez emDia lei) trivial⟩
  | mudarStatus paymentId status dia =>
      exact ⟨emDia_mudarStatus emDia paymentId status dia,
        contaUmaVez_mudarStatus emDia lei paymentId status dia⟩

end Runs

/-- In a run of operations on the treasuries of a church and of changes of the status of payments:
the lines of every treasury count what is allocated once and in full, in every state reached,
exactly when no operation distributes more of a movement already reconciled in that treasury, and no
payment joined with other lines in a reconciliation stops being paid or is paid again. -/
theorem contaUmaVez_run_iff (brl : Int → String) {db : Tesourarias} (emDia : db.EmDia)
    (lei : db.ContaUmaVez) (acoes : List Tesourarias.Acao) :
    Always (Tesourarias.agir brl) Tesourarias.ContaUmaVez db acoes ↔
      EachStep (Tesourarias.agir brl) MantemAConta db acoes :=
  always_iff_eachStep_of_invariant (I := fun db : Tesourarias => db.EmDia ∧ db.ContaUmaVez)
    (fun _ inv => inv.2)
    (fun _ _ inv keep =>
      ⟨(contaUmaVez_agir inv.1 inv.2).1, (contaUmaVez_agir inv.1 inv.2).2.mpr keep⟩)
    (fun _ _ inv after => (contaUmaVez_agir inv.1 inv.2).2.mp after) ⟨emDia, lei⟩

/-! ### A part that comes later -/

namespace DoisEventos

/-- Sixty of the deposit are brought and reconciled with a manual entry of sixty; then the rest of
the deposit is brought to the same treasury. -/
def parteDepois : List Tesourarias.Acao :=
  [.distribuir 2 [⟨5, some 6000⟩], .novoLancamento 2 ⟨.income, "Doações", "Oferta", 6000, 0⟩,
    .conciliar 2 5 [.manual 101], .distribuir 2 [⟨5, none⟩]]

end DoisEventos

theorem emDia_vazio : DoisEventos.vazio.EmDia where
  alocacoes := by simp [DoisEventos.vazio]
  ids := by simp [DoisEventos.vazio]
  novos := by simp [DoisEventos.vazio]
  movimentos := by simp [DoisEventos.vazio]
  treasuries := by decide
  eventos := by decide
  payments := by simp [DoisEventos.vazio]
  entries := by simp [DoisEventos.vazio]
  entriesNovas := by simp [DoisEventos.vazio]
  ligados := by simp [DoisEventos.vazio]
  linksAlocados := by simp [DoisEventos.vazio]
  entriesAlocadas := by simp [DoisEventos.vazio]

theorem contaUmaVez_vazio : DoisEventos.vazio.ContaUmaVez := by
  intro t mem_t a mem
  simp [DoisEventos.vazio] at mem

/-- One hundred are allocated, and the only line for the deposit is the entry of sixty. -/
theorem contaMenos_parteDepois :
    ¬ (runFrom (Tesourarias.agir fun _ => "") DoisEventos.vazio
      DoisEventos.parteDepois).ContaUmaVez := by
  intro law
  have alocado : (runFrom (Tesourarias.agir fun _ => "") DoisEventos.vazio
      DoisEventos.parteDepois).alocacoes = [⟨100, 2, 5, 10000, none⟩] := by decide +kernel
  have sums := law (DoisEventos.tesouraria 2) (by decide +kernel) ⟨100, 2, 5, 10000, none⟩
    (alocado ▸ List.mem_cons_self) rfl DoisEventos.deposito (by decide +kernel)
  exact absurd sums (by decide +kernel)

theorem not_contaUmaVez_parteDepois :
    ¬ Always (Tesourarias.agir fun _ => "") Tesourarias.ContaUmaVez DoisEventos.vazio
      DoisEventos.parteDepois :=
  fun always => contaMenos_parteDepois always.last

/-- In that run the rest of the deposit comes after the reconciliation. -/
theorem contaUmaVez_run_iff_parteDepois :
    ¬ EachStep (Tesourarias.agir fun _ => "") MantemAConta DoisEventos.vazio
      DoisEventos.parteDepois := by
  intro mantem
  have always := (contaUmaVez_run_iff (fun _ => "") emDia_vazio contaUmaVez_vazio _).mpr mantem
  exact contaMenos_parteDepois always.last

end IccvBackend
