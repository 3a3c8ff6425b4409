/-
Module: IccvBackend.Proofs.ClosedTreasuries
Purpose: A closed treasury holds what it held when it was closed, but for the calls that were then
  in flight and the payments that are deleted.
Trusted boundary: none
Main exports: Tesourarias.Livro, Tesourarias.Integro, EscreveuEm, lida_e_gravada_eq, Fecho,
  Fecho.Fiel, livro_fechado_run
-/
import IccvBackend.Proofs.Ledger
import IccvBackend.Treasury.Fechamento

namespace IccvBackend

open Lib

namespace Tesourarias

/-! ### The book of a treasury -/

/-- What a treasury holds. -/
@[ext] structure Livro where
  alocacoes : List TreasuryAllocation
  links : List TreasuryPaymentLink
  entries : List TreasuryEntry
deriving DecidableEq

def livro (db : Tesourarias) (id : Id) : Livro where
  alocacoes := db.alocacoes.filter fun a => a.treasuryId = id
  links := db.links.filter fun link => link.treasuryId = id
  entries := db.entries.filter fun entry => entry.treasuryId = id

/-- The book without the links of payments that are no more. -/
def Livro.semOsApagados (livro : Livro) (payments : List Payment) : Livro :=
  { livro with links := livro.links.filter fun link => payments.any fun p => p.id = link.paymentId }

/-- The keys of the schema, and links that are of a payment of the event of their treasury. -/
structure Integro (db : Tesourarias) : Prop where
  treasuries : Keyed Treasury.id db.nextId db.treasuries
  eventos : ∀ t ∈ db.treasuries, ∀ t' ∈ db.treasuries, t.eventId.isSome →
    t.eventId = t'.eventId → t = t'
  payments : Keyed Payment.id db.nextId db.payments
  alocacoes : Keyed TreasuryAllocation.id db.nextId db.alocacoes
  entries : Keyed TreasuryEntry.id db.nextId db.entries
  links : ∀ link ∈ db.links, ∃ p ∈ db.payments, ∃ t ∈ db.treasuries,
    p.id = link.paymentId ∧ t.id = link.treasuryId ∧ t.eventId.isSome ∧ p.eventId = t.eventId

/-- A payment of the event of a treasury. -/
def DoEvento (db : Tesourarias) (id paymentId : Id) : Prop :=
  ∃ p ∈ db.payments, ∃ t ∈ db.treasuries,
    p.id = paymentId ∧ t.id = id ∧ t.eventId.isSome ∧ p.eventId = t.eventId

end Tesourarias

open Tesourarias

/-! ### What a write in a treasury leaves alone -/

/-- The rows are whole, and only what one treasury holds has changed. -/
structure EscreveuEm (id : Id) (db depois : Tesourarias) : Prop where
  integro : depois.Integro
  treasuries : depois.treasuries = db.treasuries
  payments : depois.payments = db.payments
  contador : db.nextId ≤ depois.nextId
  alocacoes : ∀ a' ∈ depois.alocacoes,
    (∃ a ∈ db.alocacoes, a.id = a'.id ∧ a.treasuryId = a'.treasuryId) ∨ db.nextId ≤ a'.id
  outras : ∀ other, other ≠ id → depois.livro other = db.livro other

section Escritas

variable {db meio depois : Tesourarias} {id : Id}

theorem EscreveuEm.refl (integro : db.Integro) : EscreveuEm id db db where
  integro := integro
  treasuries := rfl
  payments := rfl
  contador := le_rfl
  alocacoes := fun a mem => .inl ⟨a, mem, rfl, rfl⟩
  outras := fun _ _ => rfl

theorem EscreveuEm.trans (first : EscreveuEm id db meio) (second : EscreveuEm id meio depois) :
    EscreveuEm id db depois where
  integro := second.integro
  treasuries := second.treasuries.trans first.treasuries
  payments := second.payments.trans first.payments
  contador := first.contador.trans second.contador
  alocacoes := by
    intro a' mem
    rcases second.alocacoes a' mem with ⟨a, mem_a, same, treasury⟩ | new
    · rcases first.alocacoes a mem_a with ⟨b, mem_b, same_b, treasury_b⟩ | new
      · exact .inl ⟨b, mem_b, same_b.trans same, treasury_b.trans treasury⟩
      · exact .inr (same ▸ new)
    · exact .inr (first.contador.trans new)
  outras := fun other apart => (second.outras other apart).trans (first.outras other apart)

/-- A loop of writes in one treasury. -/
theorem escreveuEm_foldl {α : Type} {f : Tesourarias → α → Tesourarias} (integro : db.Integro)
    {xs : List α}
    (each : ∀ x ∈ xs, ∀ meio : Tesourarias, meio.Integro → meio.treasuries = db.treasuries →
      meio.payments = db.payments → EscreveuEm id meio (f meio x)) :
    EscreveuEm id db (xs.foldl f db) := by
  induction xs generalizing db with
  | nil => exact .refl integro
  | cons x xs ih =>
      have first := each x List.mem_cons_self db integro rfl rfl
      apply first.trans
      apply ih first.integro
      intro y mem meio integro' treasuries payments
      exact each y (List.mem_cons_of_mem _ mem) meio integro' (treasuries.trans first.treasuries)
        (payments.trans first.payments)

/-- A row outside a selection is added. -/
theorem filter_append_of_ne {ρ : Type} {rows : List ρ} {row : ρ} {p : ρ → Bool} (other : ¬ p row) :
    (rows ++ [row]).filter p = rows.filter p := by
  simp [List.filter_append, other]

theorem escreveuEm_criarAlocacao (integro : db.Integro) (id entryId : Id) (amount : Int)
    (category : Option String) :
    EscreveuEm id db (db.criarAlocacao id entryId amount category) where
  integro :=
    { integro with
      treasuries := integro.treasuries.mono (Nat.le_succ _)
      payments := integro.payments.mono (Nat.le_succ _)
      alocacoes := integro.alocacoes.append_fresh rfl
      entries := integro.entries.mono (Nat.le_succ _) }
  treasuries := rfl
  payments := rfl
  contador := Nat.le_succ _
  alocacoes := by
    intro a mem
    rcases List.mem_append.mp mem with old | new
    · exact .inl ⟨a, old, rfl, rfl⟩
    · exact .inr (by rw [List.mem_singleton.mp new])
  outras := by
    intro other apart
    simp only [Tesourarias.livro, Tesourarias.criarAlocacao, Livro.mk.injEq, and_self, and_true]
    exact filter_append_of_ne (by simpa using apart.symm)

/-- Rows of allocations that keep their id and treasury, when those of other treasuries stay. -/
theorem escreveuEm_mapAlocacoes (integro : db.Integro) {f : TreasuryAllocation → TreasuryAllocation}
    (same : ∀ a, (f a).id = a.id ∧ (f a).treasuryId = a.treasuryId)
    (fixed : ∀ a ∈ db.alocacoes, a.treasuryId ≠ id → f a = a) :
    EscreveuEm id db { db with alocacoes := db.alocacoes.map f } where
  integro :=
    { integro with
      alocacoes := integro.alocacoes.map fun a => (same a).1 }
  treasuries := rfl
  payments := rfl
  contador := le_rfl
  alocacoes := by
    intro a' mem
    obtain ⟨a, there, rfl⟩ := List.mem_map.mp mem
    exact .inl ⟨a, there, (same a).1.symm, (same a).2.symm⟩
  outras := by
    intro other apart
    simp only [Tesourarias.livro, Livro.mk.injEq, and_self, and_true]
    apply filter_map_of_fixed_mem
    · intro a
      rw [(same a).2]
    · intro a mem there
      apply fixed a mem
      rw [of_decide_eq_true there]
      exact apart

theorem escreveuEm_somarAlocacao (integro : db.Integro) (id entryId : Id) (amount : Int)
    (category : Option String) :
    EscreveuEm id db (db.somarAlocacao id entryId amount category) := by
  unfold Tesourarias.somarAlocacao
  split
  · apply escreveuEm_mapAlocacoes integro
    · intro a
      split <;> exact ⟨rfl, rfl⟩
    · intro a _ other
      simp [other]
  · exact escreveuEm_criarAlocacao integro id entryId amount category

/-- The writes of `distribuir`. -/
theorem escreveuEm_distribuir (integro : db.Integro) {account : TreasuryAccount}
    {partes : List Parte} (ok : partes.foldlM (distribuirParte id account) db = .ok depois) :
    EscreveuEm id db depois := by
  induction partes generalizing db with
  | nil =>
      cases pure_eq_ok_iff.mp ok
      exact .refl integro
  | cons parte partes ih =>
      rw [List.foldlM_cons, bind_eq_ok_iff] at ok
      obtain ⟨meio, first, rest⟩ := ok
      unfold distribuirParte at first
      simp only [bind_eq_ok_iff, pure_eq_ok_iff] at first
      obtain ⟨_, _, valor, _, rfl⟩ := first
      have first := escreveuEm_somarAlocacao integro id parte.movimentoId valor none
      exact first.trans (ih first.integro rest)

/-- Rows of links that keep their keys, when those of other treasuries stay. -/
theorem escreveuEm_mapLinks (integro : db.Integro)
    {f : TreasuryPaymentLink → TreasuryPaymentLink}
    (same : ∀ link, (f link).paymentId = link.paymentId ∧ (f link).treasuryId = link.treasuryId)
    (fixed : ∀ link ∈ db.links, link.treasuryId ≠ id → f link = link) :
    EscreveuEm id db { db with links := db.links.map f } where
  integro :=
    { integro with
      links := by
        intro link' mem
        obtain ⟨link, there, rfl⟩ := List.mem_map.mp mem
        rw [(same link).1, (same link).2]
        exact integro.links link there }
  treasuries := rfl
  payments := rfl
  contador := le_rfl
  alocacoes := fun a mem => .inl ⟨a, mem, rfl, rfl⟩
  outras := by
    intro other apart
    simp only [Tesourarias.livro, Livro.mk.injEq, true_and, and_true]
    apply filter_map_of_fixed_mem
    · intro link
      rw [(same link).2]
    · intro link mem there
      apply fixed link mem
      rw [of_decide_eq_true there]
      exact apart

/-- Rows of manual entries that keep their keys, when those of other treasuries stay. -/
theorem escreveuEm_modifyEntries (integro : db.Integro) (p : TreasuryEntry → Bool)
    (f : TreasuryEntry → TreasuryEntry)
    (same : ∀ entry, (f entry).id = entry.id ∧ (f entry).treasuryId = entry.treasuryId)
    (dela : ∀ entry, p entry → entry.treasuryId = id) :
    EscreveuEm id db (db.modifyEntries p f) where
  integro :=
    { integro with
      entries := by
        apply integro.entries.map
        intro entry
        split
        · exact (same entry).1
        · rfl }
  treasuries := rfl
  payments := rfl
  contador := le_rfl
  alocacoes := fun a mem => .inl ⟨a, mem, rfl, rfl⟩
  outras := by
    intro other apart
    simp only [Tesourarias.livro, Tesourarias.modifyEntries, Livro.mk.injEq, true_and]
    apply filter_map_of_fixed
    · intro entry
      split <;> simp [same]
    · intro entry there
      rw [if_neg]
      intro picked
      exact apart ((of_decide_eq_true there).symm.trans (dela entry picked))

/-- The link of a payment of the event of the treasury. -/
theorem escreveuEm_upsertLink (integro : db.Integro) {paymentId : Id}
    {f : TreasuryPaymentLink → TreasuryPaymentLink}
    (same : ∀ link, (f link).paymentId = link.paymentId ∧ (f link).treasuryId = link.treasuryId)
    (doEvento : db.DoEvento id paymentId) : EscreveuEm id db (db.upsertLink paymentId id f) := by
  obtain ⟨p, mem_p, t, mem_t, named, owner, some_event, event⟩ := doEvento
  -- a link of the payment is of the one treasury its event has
  have owned : ∀ link ∈ db.links, link.paymentId = paymentId → link.treasuryId = id := by
    intro link mem here
    obtain ⟨p', mem_p', t', mem_t', named', owner', some_event', event'⟩ := integro.links link mem
    cases integro.payments.eq_of_key_eq mem_p' mem_p (named'.trans (here.trans named.symm))
    cases integro.eventos t' mem_t' t mem_t some_event' (event'.symm.trans event)
    exact owner'.symm.trans owner
  unfold Tesourarias.upsertLink
  split
  · apply escreveuEm_mapLinks integro
    · intro link
      split
      · exact same link
      · exact ⟨rfl, rfl⟩
    · intro link mem other
      rw [if_neg]
      intro here
      exact other (owned link mem here)
  · exact
      { integro :=
          { integro with
            links := by
              intro link mem
              rcases List.mem_append.mp mem with old | new
              · exact integro.links link old
              · rw [List.mem_singleton.mp new, (same _).1, (same _).2]
                exact ⟨p, mem_p, t, mem_t, named, owner, some_event, event⟩ }
        treasuries := rfl
        payments := rfl
        contador := le_rfl
        alocacoes := fun a mem => .inl ⟨a, mem, rfl, rfl⟩
        outras := by
          intro other apart
          simp only [Tesourarias.livro, Livro.mk.injEq, true_and, and_true]
          apply filter_append_of_ne
          simpa [same] using apart.symm }

/-- `ligarLancamentos`, of payments of the event of the treasury. -/
theorem escreveuEm_ligarLancamentos (integro : db.Integro) {movimentoId : Id}
    {lancamentoIds : List LancamentoId}
    (doEvento : ∀ paymentId ∈ (separarIds lancamentoIds).1, db.DoEvento id paymentId) :
    EscreveuEm id db (db.ligarLancamentos id movimentoId lancamentoIds) := by
  have links : EscreveuEm id db ((separarIds lancamentoIds).1.foldl
      (fun db paymentId => db.upsertLink paymentId id (.conciliarCom movimentoId)) db) := by
    apply escreveuEm_foldl integro
    intro paymentId mem meio integro' treasuries payments
    apply escreveuEm_upsertLink integro'
    · exact fun link => ⟨rfl, rfl⟩
    · have there := doEvento paymentId mem
      unfold Tesourarias.DoEvento at there ⊢
      rwa [treasuries, payments]
  apply links.trans
  apply escreveuEm_modifyEntries links.integro
  · exact fun entry => ⟨rfl, rfl⟩
  · intro entry picked
    simp only [Bool.and_eq_true, decide_eq_true_eq] at picked
    exact picked.2

/-- `gravarNaoConsta`, with the event of the treasury. -/
theorem escreveuEm_gravarNaoConsta (integro : db.Integro) {eventId : Option Id}
    {lancamentoIds : List LancamentoId} {quando : Option Instant}
    (doEvento : ∀ p ∈ db.pagamentosDoEvento eventId lancamentoIds, db.DoEvento id p.id) :
    EscreveuEm id db (db.gravarNaoConsta id eventId lancamentoIds quando) := by
  have links : EscreveuEm id db ((db.pagamentosDoEvento eventId lancamentoIds).foldl
      (fun atual p =>
        if (db.conciliadoCom p.id).isSome then atual
        else atual.upsertLink p.id id (.marcar quando)) db) := by
    apply escreveuEm_foldl integro
    intro p mem meio integro' treasuries payments
    split
    · exact .refl integro'
    · apply escreveuEm_upsertLink integro'
      · exact fun link => ⟨rfl, rfl⟩
      · have there := doEvento p mem
        unfold Tesourarias.DoEvento at there ⊢
        rwa [treasuries, payments]
  apply links.trans
  apply escreveuEm_modifyEntries links.integro
  · exact fun entry => ⟨rfl, rfl⟩
  · intro entry picked
    simp only [Bool.and_eq_true, decide_eq_true_eq] at picked
    exact picked.1.2

/-- `soltar`, of an allocation of the treasury. -/
theorem escreveuEm_soltar (integro : db.Integro) {movimentoId alocacaoId : Id}
    (dela : ∀ a ∈ db.alocacoes, a.id = alocacaoId → a.treasuryId = id) :
    EscreveuEm id db (db.soltar id movimentoId alocacaoId) := by
  have links : EscreveuEm id db { db with
      links := db.links.map fun link =>
        if link.treasuryId = id && link.movementId = some movimentoId then
          { link with movementId := none }
        else link } := by
    apply escreveuEm_mapLinks integro
    · intro link
      split <;> exact ⟨rfl, rfl⟩
    · intro link _ other
      simp [other]
  have entries := escreveuEm_modifyEntries links.integro
    (fun entry => entry.treasuryId = id && entry.movementId = some movimentoId)
    (fun entry => { entry with movementId := none }) (fun _ => ⟨rfl, rfl⟩) (by
      intro entry picked
      simp only [Bool.and_eq_true, decide_eq_true_eq] at picked
      exact picked.1)
  apply (links.trans entries).trans
  exact
    { integro :=
        { entries.integro with
          alocacoes := integro.alocacoes.filter _ }
      treasuries := rfl
      payments := rfl
      contador := le_rfl
      alocacoes := fun a mem => .inl ⟨a, (List.mem_filter.mp mem).1, rfl, rfl⟩
      outras := by
        intro other apart
        simp only [Tesourarias.livro, Tesourarias.soltar, Tesourarias.modifyEntries, Livro.mk.injEq,
          and_self, and_true]
        rw [List.filter_filter]
        apply List.filter_congr
        intro a mem
        by_cases here : a.id = alocacaoId
        · have owner := dela a mem here
          simp [here, owner, apart.symm]
        · simp [here] }

end Escritas

/-! ### What a call in flight may rely on -/

/-- What a write has read still says what it did of the rows that are left. -/
def EscritaDaTesouraria.Vale (db : Tesourarias) (id : Id) : EscritaDaTesouraria → Prop
  | .soltar _ alocacaoId | .classificar alocacaoId _ =>
      alocacaoId < db.nextId ∧ ∀ a ∈ db.alocacoes, a.id = alocacaoId → a.treasuryId = id
  | .conciliar _ _ _ _ lancamentoIds => ∀ paymentId ∈ (separarIds lancamentoIds).1,
      paymentId < db.nextId ∧ ∀ p ∈ db.payments, p.id = paymentId →
        ∀ t ∈ db.treasuries, t.id = id → t.eventId.isSome ∧ p.eventId = t.eventId
  | .naoConsta eventId _ _ => ∀ t ∈ db.treasuries, t.id = id → t.eventId = eventId
  | _ => True

def ChamadaDaTesouraria.Vale (db : Tesourarias) : ChamadaDaTesouraria → Prop
  | .ler t _ => t.id < db.nextId ∧ ∀ t' ∈ db.treasuries, t'.id = t.id → t'.eventId = t.eventId
  | .gravar id escrita => id < db.nextId ∧ escrita.Vale db id
  | _ => True

/-- Rows keep their event and their treasury, and new ones have new ids. -/
structure Evoluiu (db depois : Tesourarias) : Prop where
  contador : db.nextId ≤ depois.nextId
  treasuries : ∀ t' ∈ depois.treasuries,
    (∃ t ∈ db.treasuries, t.id = t'.id ∧ t.eventId = t'.eventId) ∨ db.nextId ≤ t'.id
  payments : ∀ p' ∈ depois.payments,
    (∃ p ∈ db.payments, p.id = p'.id ∧ p.eventId = p'.eventId) ∨ db.nextId ≤ p'.id
  alocacoes : ∀ a' ∈ depois.alocacoes,
    (∃ a ∈ db.alocacoes, a.id = a'.id ∧ a.treasuryId = a'.treasuryId) ∨ db.nextId ≤ a'.id

section Chamadas

variable {brl : Int → String} {db depois : Tesourarias} {id : Id}

theorem EscreveuEm.evoluiu (escreveu : EscreveuEm id db depois) : Evoluiu db depois where
  contador := escreveu.contador
  treasuries := fun t mem => .inl ⟨t, escreveu.treasuries ▸ mem, rfl, rfl⟩
  payments := fun p mem => .inl ⟨p, escreveu.payments ▸ mem, rfl, rfl⟩
  alocacoes := escreveu.alocacoes

theorem EscritaDaTesouraria.Vale.evoluir (evoluiu : Evoluiu db depois) (old : id < db.nextId)
    {escrita : EscritaDaTesouraria} (vale : escrita.Vale db id) : escrita.Vale depois id := by
  have treasury : ∀ t' ∈ depois.treasuries, t'.id = id →
      ∃ t ∈ db.treasuries, t.id = id ∧ t.eventId = t'.eventId := by
    intro t' mem here
    rcases evoluiu.treasuries t' mem with ⟨t, mem_t, same, event⟩ | new
    · exact ⟨t, mem_t, same.trans here, event⟩
    · exact absurd (here ▸ new) (not_le.mpr old)
  have alocacao : ∀ alocacaoId, (alocacaoId < db.nextId ∧
      ∀ a ∈ db.alocacoes, a.id = alocacaoId → a.treasuryId = id) →
        alocacaoId < depois.nextId ∧
          ∀ a ∈ depois.alocacoes, a.id = alocacaoId → a.treasuryId = id := by
    intro alocacaoId ⟨less, dela⟩
    apply And.intro (lt_of_lt_of_le less evoluiu.contador)
    intro a' mem here
    rcases evoluiu.alocacoes a' mem with ⟨a, mem_a, same, owner⟩ | new
    · exact owner.symm.trans (dela a mem_a (same.trans here))
    · exact absurd (here ▸ new) (not_le.mpr less)
  cases escrita with
  | distribuir account partes => trivial
  | soltar movimentoId alocacaoId => exact alocacao alocacaoId vale
  | classificar alocacaoId categoria => exact alocacao alocacaoId vale
  | conciliar movimentoId aqui doBanco categoria lancamentoIds =>
      intro paymentId mem
      obtain ⟨less, doEvento⟩ := vale paymentId mem
      apply And.intro (lt_of_lt_of_le less evoluiu.contador)
      intro p' mem_p' named t' mem_t' here
      obtain ⟨t, mem_t, same, event⟩ := treasury t' mem_t' here
      rcases evoluiu.payments p' mem_p' with ⟨p, mem_p, same_p, event_p⟩ | new
      · rw [← event, ← event_p]
        exact doEvento p mem_p (same_p.trans named) t mem_t same
      · exact absurd (named ▸ new) (not_le.mpr less)
  | naoConsta eventId lancamentoIds quando =>
      intro t' mem here
      obtain ⟨t, mem_t, same, event⟩ := treasury t' mem here
      exact event.symm.trans (vale t mem_t same)
  | lancar dto => trivial

theorem ChamadaDaTesouraria.Vale.evoluir (evoluiu : Evoluiu db depois)
    {chamada : ChamadaDaTesouraria} (vale : chamada.Vale db) : chamada.Vale depois := by
  cases chamada with
  | ler t op =>
      apply And.intro (lt_of_lt_of_le vale.1 evoluiu.contador)
      intro t' mem here
      rcases evoluiu.treasuries t' mem with ⟨old, mem_old, same, event⟩ | new
      · exact event.symm.trans (vale.2 old mem_old (same.trans here))
      · exact absurd (here ▸ new) (not_le.mpr vale.1)
  | gravar id escrita =>
      exact ⟨lt_of_lt_of_le vale.1 evoluiu.contador, vale.2.evoluir evoluiu vale.1⟩
  | _ => trivial

theorem treasury?_mem {t : Treasury} (found : db.treasury? id = some t) :
    t ∈ db.treasuries ∧ t.id = id := by
  have named := List.find?_some found
  simp only [Bool.and_eq_true, decide_eq_true_eq] at named
  exact ⟨List.mem_of_find?_eq_some found, named.1⟩

theorem exigirChave_ok {u : Unit} (ok : db.exigirChave id = .ok u) :
    ∃ t ∈ db.treasuries, t.id = id := by
  unfold Tesourarias.exigirChave at ok
  rw [failIf_eq_ok_iff, Option.isNone_iff_eq_none] at ok
  obtain ⟨t, found⟩ := Option.ne_none_iff_exists'.mp ok
  exact ⟨t, treasury?_mem found⟩

theorem escreveuEm_lancar (integro : db.Integro) (dto : LancamentoDto) :
    EscreveuEm id db (db.lancar id dto) where
  integro :=
    { integro with
      treasuries := integro.treasuries.mono (Nat.le_succ _)
      payments := integro.payments.mono (Nat.le_succ _)
      alocacoes := integro.alocacoes.mono (Nat.le_succ _)
      entries := integro.entries.append_fresh rfl }
  treasuries := rfl
  payments := rfl
  contador := Nat.le_succ _
  alocacoes := fun a mem => .inl ⟨a, mem, rfl, rfl⟩
  outras := by
    intro other apart
    simp only [Tesourarias.livro, Tesourarias.lancar, Livro.mk.injEq, true_and]
    exact filter_append_of_ne (by simpa using apart.symm)

/-- A write that goes through changes what its treasury holds, and nothing else. -/
theorem escreveuEm_gravar (integro : db.Integro) {escrita : EscritaDaTesouraria}
    (vale : escrita.Vale db id) (ok : db.gravar id escrita = .ok depois) :
    EscreveuEm id db depois := by
  cases escrita with
  | distribuir account partes =>
      simp only [Tesourarias.gravar, bind_eq_ok_iff, pure_eq_ok_iff] at ok
      obtain ⟨meio, done, _, _, rfl⟩ := ok
      exact escreveuEm_distribuir integro done
  | soltar movimentoId alocacaoId =>
      simp only [Tesourarias.gravar, bind_eq_ok_iff, pure_eq_ok_iff] at ok
      obtain ⟨_, _, rfl⟩ := ok
      exact escreveuEm_soltar integro vale.2
  | classificar alocacaoId categoria =>
      simp only [Tesourarias.gravar, bind_eq_ok_iff, pure_eq_ok_iff] at ok
      obtain ⟨_, _, rfl⟩ := ok
      apply escreveuEm_mapAlocacoes integro
      · intro a
        split <;> exact ⟨rfl, rfl⟩
      · intro a mem other
        rw [if_neg]
        intro here
        exact other (vale.2 a mem here)
  | conciliar movimentoId aqui doBanco categoria lancamentoIds =>
      simp only [Tesourarias.gravar, bind_eq_ok_iff, pure_eq_ok_iff, failIf_eq_ok_iff] at ok
      obtain ⟨_, _, _, chave, _, existem, rfl⟩ := ok
      obtain ⟨t, mem_t, owner⟩ := exigirChave_ok chave
      have criada : EscreveuEm id db
          (if aqui then db else db.criarAlocacao id movimentoId doBanco (some categoria)) := by
        split
        · exact .refl integro
        · exact escreveuEm_criarAlocacao integro id movimentoId doBanco (some categoria)
      apply criada.trans
      apply escreveuEm_ligarLancamentos criada.integro
      intro paymentId mem
      unfold Tesourarias.DoEvento
      rw [criada.payments, criada.treasuries]
      obtain ⟨p, found⟩ : ∃ p, lookup Payment.id paymentId db.payments = some p := by
        apply Option.ne_none_iff_exists'.mp
        intro absent
        exact existem ⟨paymentId, mem, by rw [absent]; rfl⟩
      have event := (vale paymentId mem).2 p (lookup_mem found) (lookup_key found) t mem_t owner
      exact ⟨p, lookup_mem found, t, mem_t, lookup_key found, owner, event⟩
  | naoConsta eventId lancamentoIds quando =>
      simp only [Tesourarias.gravar, bind_eq_ok_iff, pure_eq_ok_iff, failIf_eq_ok_iff] at ok
      obtain ⟨_, existe, rfl⟩ := ok
      apply escreveuEm_gravarNaoConsta integro
      intro p mem
      obtain ⟨t, found⟩ : ∃ t, db.treasury? id = some t := by
        apply Option.ne_none_iff_exists'.mp
        intro absent
        exact existe ⟨by rw [absent]; rfl, List.ne_nil_of_mem mem⟩
      have event := vale t (treasury?_mem found).1 (treasury?_mem found).2
      have picked := List.mem_filter.mp mem
      simp only [Bool.and_eq_true, decide_eq_true_eq] at picked
      exact ⟨p, picked.1, t, (treasury?_mem found).1, rfl, (treasury?_mem found).2,
        event ▸ picked.2.1.1, picked.2.1.2.trans event.symm⟩
  | lancar dto =>
      simp only [Tesourarias.gravar, bind_eq_ok_iff, pure_eq_ok_iff] at ok
      obtain ⟨_, _, rfl⟩ := ok
      exact escreveuEm_lancar integro dto

/-- No id is of two lines of a treasury. -/
theorem Tesourarias.Integro.sistema (integro : db.Integro) (t : Treasury) :
    ((db.sistema t).map fun l => l.lancamento.id).Nodup := by
  unfold Tesourarias.sistema
  rw [((List.perm_insertionSort _ _).map _).nodup_iff, List.map_append, List.map_map, List.map_map]
  apply List.Nodup.append
  · have ids : ((db.payments.filter (contaNa t)).map Payment.id).Nodup :=
      (integro.payments.filter _).nodup
    have images := ids.map fun a b same => LancamentoId.pagamento.inj same
    rwa [List.map_map] at images
  · have ids : ((db.entries.filter fun m => m.treasuryId = t.id).map TreasuryEntry.id).Nodup :=
      (integro.entries.filter _).nodup
    have images := ids.map fun a b same => LancamentoId.manual.inj same
    rwa [List.map_map] at images
  · intro id mem mem'
    obtain ⟨p, _, rfl⟩ := List.mem_map.mp mem
    obtain ⟨m, _, same⟩ := List.mem_map.mp mem'
    cases same

theorem mem_separarIds {paymentId : Id} {ids : List LancamentoId} :
    paymentId ∈ (separarIds ids).1 ↔ .pagamento paymentId ∈ ids := by
  simp only [separarIds, List.mem_filterMap]
  constructor
  · rintro ⟨id, mem, same⟩
    cases id with
    | pagamento other => cases same; exact mem
    | manual other => cases same
  · exact fun mem => ⟨_, mem, rfl⟩

/-- The payments of a reconciliation are lines of its treasury. -/
theorem linha_do_pagamento (integro : db.Integro) {t : Treasury} {ids : List LancamentoId}
    (length : ((db.sistema t).filter fun l => l.lancamento.id ∈ ids).length = ids.eraseDups.length)
    {paymentId : Id} (mem : paymentId ∈ (separarIds ids).1) :
    ∃ p ∈ db.payments, p.id = paymentId ∧ t.eventId.isSome ∧ p.eventId = t.eventId := by
  obtain ⟨l, mem_l, named⟩ :=
    exists_of_length_filter (integro.sistema t) length (mem_separarIds.mp mem)
  rcases mem_sistema.mp mem_l with ⟨p, mem_p, conta, rfl⟩ | ⟨e, _, _, rfl⟩
  · simp only [contaNa, Bool.and_eq_true, decide_eq_true_eq] at conta
    exact ⟨p, mem_p, LancamentoId.pagamento.inj named, conta.1.1.1, conta.1.1.2⟩
  · cases named

/-- What a write has read holds when it was read. -/
theorem vale_ler (integro : db.Integro) {t : Treasury} {op : OperacaoDaTesouraria}
    {escrita : EscritaDaTesouraria} (vale : (ChamadaDaTesouraria.ler t op).Vale db)
    (ok : db.ler brl t op = .ok escrita) : escrita.Vale db t.id := by
  have alocacao : ∀ a ∈ db.alocacoes, a.treasuryId = t.id →
      a.id < db.nextId ∧ ∀ b ∈ db.alocacoes, b.id = a.id → b.treasuryId = t.id := by
    intro a mem owner
    apply And.intro (integro.alocacoes.lt_next a mem)
    intro b mem_b same
    rw [integro.alocacoes.eq_of_key_eq mem_b mem same]
    exact owner
  cases op with
  | distribuir partes =>
      cases pure_eq_ok_iff.mp ok
      trivial
  | devolver alocacaoId =>
      simp only [Tesourarias.ler, bind_eq_ok_iff, pure_eq_ok_iff, orFail_eq_ok_iff] at ok
      obtain ⟨a, found, rfl⟩ := ok
      have picked := List.find?_some found
      simp only [Bool.and_eq_true, decide_eq_true_eq] at picked
      have holds := alocacao a (List.mem_of_find?_eq_some found) picked.2
      rwa [picked.1] at holds
  | classificar alocacaoId categoria =>
      simp only [Tesourarias.ler, bind_eq_ok_iff, pure_eq_ok_iff, orFail_eq_ok_iff] at ok
      obtain ⟨a, found, _, _, _, _, rfl⟩ := ok
      have picked := List.find?_some found
      simp only [Bool.and_eq_true, decide_eq_true_eq] at picked
      have holds := alocacao a (List.mem_of_find?_eq_some found) picked.2
      rwa [picked.1] at holds
  | desfazer movimentoId =>
      simp only [Tesourarias.ler, bind_eq_ok_iff, pure_eq_ok_iff, orFail_eq_ok_iff] at ok
      obtain ⟨a, found, rfl⟩ := ok
      have picked := List.find?_some found
      simp only [Bool.and_eq_true, decide_eq_true_eq] at picked
      exact alocacao a (List.mem_of_find?_eq_some found) picked.1
  | conciliar movimentoId lancamentoIds =>
      simp only [Tesourarias.ler, bind_eq_ok_iff, pure_eq_ok_iff, orFail_eq_ok_iff,
        failIf_eq_ok_iff] at ok
      obtain ⟨_, _, _, length, _, _, _, _, _, _, _, _, _, _, rfl⟩ := ok
      intro paymentId mem
      obtain ⟨p, mem_p, rfl, some_event, event⟩ :=
        linha_do_pagamento integro (not_not.mp length) mem
      apply And.intro (integro.payments.lt_next p mem_p)
      intro p' mem_p' same t' mem_t' here
      rw [integro.payments.eq_of_key_eq mem_p' mem_p same, vale.2 t' mem_t' here]
      exact ⟨some_event, event⟩
  | naoConsta lancamentoIds quando =>
      cases pure_eq_ok_iff.mp ok
      exact vale.2
  | novoLancamento dto =>
      simp only [Tesourarias.ler, bind_eq_ok_iff, pure_eq_ok_iff] at ok
      obtain ⟨_, _, _, _, rfl⟩ := ok
      trivial

end Chamadas

/-! ### One request at a time

With nothing in between, the reads and the write of a request are the operation of
`Tesourarias.executar`. -/

/-- The operation of a request on a treasury. -/
def OperacaoDaTesouraria.acao (id : Id) : OperacaoDaTesouraria → Option Tesourarias.Acao
  | .distribuir partes => some (.distribuir id partes)
  | .devolver alocacaoId => some (.devolver id alocacaoId)
  | .classificar _ _ => none
  | .conciliar movimentoId lancamentoIds => some (.conciliar id movimentoId lancamentoIds)
  | .desfazer movimentoId => some (.desfazer id movimentoId)
  | .naoConsta lancamentoIds quando => some (.naoConsta id lancamentoIds quando)
  | .novoLancamento dto => some (.novoLancamento id dto)

section UmaPorVez

variable {brl : Int → String} {db : Tesourarias} {id : Id}

/-- The treasury that `exigirAberta` found. -/
theorem treasury?_of_aberta {t : Treasury} (ok : db.exigirAberta id = .ok t) :
    db.treasury? id = some t := by
  unfold Tesourarias.exigirAberta at ok
  simp only [bind_eq_ok_iff, orFail_eq_ok_iff, failIf_eq_ok_iff, pure_eq_ok_iff] at ok
  obtain ⟨_, found, _, _, rfl⟩ := ok
  exact found

theorem exigirChave_of_found {t : Treasury} (found : db.treasury? id = some t) :
    db.exigirChave id = .ok () := by
  unfold Tesourarias.exigirChave failIf
  rw [found]
  rfl

/-- The write of a reconciliation that nobody disturbed. -/
theorem gravar_conciliar (integro : db.Integro) {t : Treasury} (found : db.treasury? id = some t)
    {movimentoId : Id} {doBanco : Int} {categoria : String} {ids : List LancamentoId}
    (length :
      ((db.sistema t).filter fun l => l.lancamento.id ∈ ids).length = ids.eraseDups.length) :
    db.gravar id
        (.conciliar movimentoId (db.alocacao? id movimentoId).isSome doBanco categoria ids) =
      .ok (db.gravarConciliacao id movimentoId doBanco categoria ids) := by
  have there : ¬ ∃ paymentId ∈ (separarIds ids).1,
      (lookup Payment.id paymentId db.payments).isNone := by
    rintro ⟨paymentId, mem, absent⟩
    obtain ⟨p, mem_p, rfl, _⟩ := linha_do_pagamento integro length mem
    have some_row := lookup_isSome_of_mem Payment.id mem_p
    rw [Option.isNone_iff_eq_none] at absent
    rw [absent] at some_row
    cases some_row
  unfold Tesourarias.gravar
  dsimp only
  rw [exigirChave_of_found found]
  unfold failIf
  rw [if_neg (by simp), if_neg there]
  unfold Tesourarias.gravarConciliacao
  cases db.alocacao? id movimentoId <;> rfl

/-- The release of an allocation that is there. -/
theorem gravar_soltar {a : TreasuryAllocation} (mem : a ∈ db.alocacoes) (movimentoId : Id) :
    db.gravar id (.soltar movimentoId a.id) = .ok (db.soltar id movimentoId a.id) := by
  obtain ⟨row, found⟩ := Option.isSome_iff_exists.mp
    (lookup_isSome_of_mem TreasuryAllocation.id mem)
  unfold Tesourarias.gravar
  dsimp only
  rw [found]
  rfl

/-- With nobody between its reads and its writes, a call is the action of the ledger. -/
theorem lida_e_gravada_eq (integro : db.Integro) {op : OperacaoDaTesouraria}
    {acao : Tesourarias.Acao} (same : op.acao id = some acao) :
    (do let t ← db.exigirAberta id
        let escrita ← db.ler brl t op
        db.gravar id escrita) = db.executar brl acao := by
  cases op with
  | classificar alocacaoId categoria => cases same
  | distribuir partes =>
      cases same
      apply bind_congr_of_ok
      intro t opened
      show (partes.foldlM (distribuirParte id (db.contaDa t.kind)) db >>= fun depois =>
        db.exigirChave id >>= fun _ => pure depois) = _
      rw [exigirChave_of_found (treasury?_of_aberta opened)]
      exact bind_pure _
  | devolver alocacaoId =>
      cases same
      apply bind_congr_of_ok
      intro t opened
      obtain rfl := (treasury?_mem (treasury?_of_aberta opened)).2
      simp only [Tesourarias.ler, bind_assoc, pure_bind]
      apply bind_congr_of_ok
      intro a read
      rw [orFail_eq_ok_iff] at read
      have picked := List.find?_some read
      simp only [Bool.and_eq_true, decide_eq_true_eq] at picked
      rw [← picked.1]
      exact gravar_soltar (List.mem_of_find?_eq_some read) a.entryId
  | conciliar movimentoId ids =>
      cases same
      apply bind_congr_of_ok
      intro t opened
      have found := treasury?_of_aberta opened
      obtain rfl := (treasury?_mem found).2
      simp only [Tesourarias.ler, bind_assoc, pure_bind]
      apply bind_congr_of_ok
      intro primeiro _
      apply bind_congr_of_ok
      intro _ length
      rw [failIf_eq_ok_iff, not_not] at length
      apply bind_congr_of_ok
      intro _ _
      apply bind_congr_of_ok
      intro _ _
      apply bind_congr_of_ok
      intro movimento _
      apply bind_congr_of_ok
      intro doBanco _
      apply bind_congr_of_ok
      intro _ _
      exact gravar_conciliar integro found length
  | desfazer movimentoId =>
      cases same
      apply bind_congr_of_ok
      intro t opened
      obtain rfl := (treasury?_mem (treasury?_of_aberta opened)).2
      simp only [Tesourarias.ler, bind_assoc, pure_bind]
      apply bind_congr_of_ok
      intro a read
      rw [orFail_eq_ok_iff] at read
      exact gravar_soltar (List.mem_of_find?_eq_some read) movimentoId
  | naoConsta ids quando =>
      cases same
      apply bind_congr_of_ok
      intro t opened
      have there : ¬ ((db.treasury? id).isNone ∧ db.pagamentosDoEvento t.eventId ids ≠ []) := by
        rw [treasury?_of_aberta opened]
        intro gone
        cases gone.1
      show (failIf _ _ >>= fun _ => pure (db.gravarNaoConsta id t.eventId ids quando)) = _
      unfold failIf
      rw [if_neg there]
      rfl
  | novoLancamento dto =>
      cases same
      apply bind_congr_of_ok
      intro t opened
      simp only [Tesourarias.ler, bind_assoc, pure_bind]
      apply bind_congr_of_ok
      intro _ _
      apply bind_congr_of_ok
      intro _ _
      show (db.exigirChave id >>= fun _ => pure (db.lancar id dto)) = _
      rw [exigirChave_of_found (treasury?_of_aberta opened)]
      rfl

end UmaPorVez

/-! ### The law -/

/-- A closing: what the treasury held, the calls then about to change it, and how many changes were
made since. -/
structure Fecho where
  livro : Livro
  pendentes : Nat
  mudancas : Nat

/-- The last closing of each treasury. -/
abbrev Fechos := Id → Fecho

/-- The treasury that an action closes. -/
def TesourariasEmUso.Acao.fecha (s : TesourariasEmUso) : TesourariasEmUso.Acao → Option Id
  | .avancar k _ =>
      match s.chamadas[k]? with
      | some (.fechar id) => some id
      | _ => none
  | _ => none

/-- The action is a statement of a call. -/
def TesourariasEmUso.Acao.avanca : TesourariasEmUso.Acao → Bool
  | .avancar _ _ => true
  | _ => false

/-- A closing is noted when it is written, and after it each statement that changes the book. -/
def anotarFecho (fechos : Fechos) (antes : TesourariasEmUso) (acao : TesourariasEmUso.Acao)
    (depois : TesourariasEmUso) : Fechos := fun id =>
  if acao.fecha antes = some id then ⟨depois.db.livro id, depois.emVoo id, 0⟩
  else if acao.avanca ∧ depois.db.livro id ≠ antes.db.livro id then
    { fechos id with mudancas := (fechos id).mudancas + 1 }
  else fechos id

/-- No more changes than calls that were in flight, those still in flight counted; and without a
change, the book of the closing, but for the payments deleted since. -/
def Fecho.Fiel (fecho : Fecho) (s : TesourariasEmUso) (id : Id) : Prop :=
  fecho.mudancas + s.emVoo id ≤ fecho.pendentes ∧
    (fecho.mudancas = 0 → s.db.livro id = fecho.livro.semOsApagados s.db.payments)

/-- Every closed treasury is true to its closing. -/
def TesourariasEmUso.Fechadas (s : TesourariasEmUso) (fechos : Fechos) : Prop :=
  ∀ t ∈ s.db.treasuries, t.closedAt.isSome → (fechos t.id).Fiel s t.id

/-! ### Steps -/

namespace TesourariasEmUso

/-- What every reachable state has. -/
structure Invariante (s : TesourariasEmUso) (fechos : Fechos) : Prop where
  integro : s.db.Integro
  valem : ∀ c ∈ s.chamadas, c.Vale s.db
  lembrados : ∀ id, ∀ link ∈ (fechos id).livro.links, link.paymentId < s.db.nextId
  fechadas : s.Fechadas fechos

end TesourariasEmUso

section Passos

variable {brl : Int → String} {s depois : TesourariasEmUso} {fechos : Fechos} {id : Id}

open TesourariasEmUso

/-- A step that does not close the treasury and leaves its book notes nothing of it. -/
theorem anotarFecho_of_same {acao : TesourariasEmUso.Acao} (open_ : acao.fecha s ≠ some id)
    (same : depois.db.livro id = s.db.livro id) :
    anotarFecho fechos s acao depois id = fechos id := by
  unfold anotarFecho
  rw [if_neg open_, if_neg]
  exact fun changed => changed.2 same

/-- A treasury with the same book and no more calls in flight is as true as it was. -/
theorem Fecho.Fiel.seguir {fecho : Fecho} (fiel : fecho.Fiel s id)
    (livro : depois.db.livro id = s.db.livro id)
    (apagados : fecho.livro.semOsApagados depois.db.payments =
      fecho.livro.semOsApagados s.db.payments)
    (voo : depois.emVoo id ≤ s.emVoo id) : fecho.Fiel depois id := by
  apply And.intro
  · have bound := fiel.1
    omega
  · intro none
    rw [livro, apagados]
    exact fiel.2 none

/-- A call leaves the list. -/
theorem countP_eraseIdx {α : Type} {l : List α} {k : Nat} {x : α} (here : l[k]? = some x)
    (p : α → Bool) : l.countP p = (l.eraseIdx k).countP p + if p x then 1 else 0 := by
  obtain ⟨lt, rfl⟩ := List.getElem?_eq_some_iff.mp here
  rw [← (List.getElem_cons_eraseIdx_perm lt).countP_eq, List.countP_cons]

/-- A call goes on as one that counts the same. -/
theorem countP_set {α : Type} {l : List α} {k : Nat} {x y : α} (here : l[k]? = some x)
    {p : α → Bool} (same : p y = p x) : (l.set k y).countP p = l.countP p := by
  rw [countP_eraseIdx here p]
  obtain ⟨lt, _⟩ := List.getElem?_eq_some_iff.mp here
  rw [(List.set_perm_cons_eraseIdx lt y).countP_eq, List.countP_cons, same]

theorem countP_eraseIdx_le {α : Type} (l : List α) (k : Nat) (p : α → Bool) :
    (l.eraseIdx k).countP p ≤ l.countP p :=
  (List.eraseIdx_sublist l k).countP_le

theorem lembrados_anotarFecho (inv : s.Invariante fechos) {acao : TesourariasEmUso.Acao}
    (integro : depois.db.Integro) (contador : s.db.nextId ≤ depois.db.nextId) (id : Id) :
    ∀ link ∈ (anotarFecho fechos s acao depois id).livro.links,
      link.paymentId < depois.db.nextId := by
  have before : ∀ link ∈ (fechos id).livro.links, link.paymentId < depois.db.nextId :=
    fun link mem => lt_of_lt_of_le (inv.lembrados id link mem) contador
  unfold anotarFecho
  split
  · intro link mem
    obtain ⟨p, mem_p, _, _, same, _⟩ := integro.links link (List.mem_filter.mp mem).1
    rw [← same]
    exact integro.payments.lt_next p mem_p
  · split <;> exact before

/-- What a step has to show: whole rows, and closed treasuries true to their closings. -/
theorem TesourariasEmUso.Invariante.passar (inv : s.Invariante fechos)
    (depois : TesourariasEmUso) {acao : TesourariasEmUso.Acao} (integro : depois.db.Integro)
    (evoluiu : Evoluiu s.db depois.db) (chamadas : depois.chamadas ⊆ s.chamadas)
    (fechadas : depois.Fechadas (anotarFecho fechos s acao depois)) :
    depois.Invariante (anotarFecho fechos s acao depois) where
  integro := integro
  valem := fun c mem => (inv.valem c (chamadas mem)).evoluir evoluiu
  lembrados := lembrados_anotarFecho inv integro evoluiu.contador
  fechadas := fechadas

theorem Evoluiu.refl (db : Tesourarias) : Evoluiu db db where
  contador := le_rfl
  treasuries := fun t mem => .inl ⟨t, mem, rfl, rfl⟩
  payments := fun p mem => .inl ⟨p, mem, rfl, rfl⟩
  alocacoes := fun a mem => .inl ⟨a, mem, rfl, rfl⟩

/-- A step that writes no row, and puts no call in flight on a closed treasury. -/
theorem TesourariasEmUso.Invariante.semEscrever (inv : s.Invariante fechos)
    (depois : TesourariasEmUso) {acao : TesourariasEmUso.Acao} (open_ : acao.fecha s = none)
    (db : depois.db = s.db)
    (valem : ∀ c ∈ depois.chamadas, c.Vale s.db)
    (voo : ∀ t ∈ s.db.treasuries, t.closedAt.isSome → depois.emVoo t.id ≤ s.emVoo t.id) :
    depois.Invariante (anotarFecho fechos s acao depois) := by
  have same : anotarFecho fechos s acao depois = fechos := by
    funext id
    apply anotarFecho_of_same
    · rw [open_]
      exact nofun
    · rw [db]
  rw [same]
  exact
    { integro := db ▸ inv.integro
      valem := db ▸ valem
      lembrados := db ▸ inv.lembrados
      fechadas := by
        intro t mem closed
        rw [db] at mem
        exact (inv.fechadas t mem closed).seguir (by rw [db]) (by rw [db]) (voo t mem closed) }

/-- A change outside the treasuries, which the books follow. -/
theorem TesourariasEmUso.Invariante.porFora (inv : s.Invariante fechos)
    {acao : TesourariasEmUso.Acao} (db : Tesourarias)
    (fora : acao.fecha s = none ∧ acao.avanca = false)
    (integro : db.Integro) (evoluiu : Evoluiu s.db db)
    (fechadas : ∀ t' ∈ db.treasuries, t'.closedAt.isSome →
      ∃ t ∈ s.db.treasuries, t.id = t'.id ∧ t.closedAt.isSome)
    (livros : ∀ t' ∈ db.treasuries, ∀ livro : Livro,
      (∀ link ∈ livro.links, link.paymentId < s.db.nextId) →
        s.db.livro t'.id = livro.semOsApagados s.db.payments →
          db.livro t'.id = livro.semOsApagados db.payments) :
    Invariante { s with db } (anotarFecho fechos s acao { s with db }) := by
  have same : anotarFecho fechos s acao { s with db } = fechos := by
    funext id
    unfold anotarFecho
    rw [if_neg, if_neg]
    · rw [fora.2]
      exact fun moved => nomatch moved.1
    · rw [fora.1]
      exact nofun
  have closed : Fechadas { s with db } (anotarFecho fechos s acao { s with db }) := by
    rw [same]
    intro t' mem closed
    obtain ⟨t, mem_t, same_id, closed_t⟩ := fechadas t' mem closed
    have fiel := inv.fechadas t mem_t closed_t
    rw [same_id] at fiel
    apply And.intro fiel.1
    intro none
    exact livros t' mem _ (inv.lembrados t'.id) (fiel.2 none)
  exact inv.passar { s with db } integro evoluiu (fun _ mem => mem) closed

/-! ### The write of a call -/

theorem encerrar_chamadas (k : Nat) (fim : Except Failure Tesourarias) :
    (s.encerrar k fim).chamadas = s.chamadas.eraseIdx k := by
  cases fim <;> rfl

theorem emVoo_encerrar_le (k : Nat) (fim : Except Failure Tesourarias) (id : Id) :
    (s.encerrar k fim).emVoo id ≤ s.emVoo id := by
  unfold TesourariasEmUso.emVoo
  rw [encerrar_chamadas]
  exact countP_eraseIdx_le _ _ _

theorem chamadas_encerrar (k : Nat) (fim : Except Failure Tesourarias) :
    (s.encerrar k fim).chamadas ⊆ s.chamadas := by
  rw [encerrar_chamadas]
  exact List.eraseIdx_subset

/-- The write of a request: one change of one book at most, for one call less in flight. -/
theorem invariante_gravar (inv : s.Invariante fechos) {k : Nat} {agora : Instant}
    {escrita : EscritaDaTesouraria} (here : s.chamadas[k]? = some (.gravar id escrita))
    {db : Tesourarias} (ok : s.db.gravar id escrita = .ok db) :
    (s.encerrar k (.ok db)).Invariante
      (anotarFecho fechos s (.avancar k agora) (s.encerrar k (.ok db))) := by
  have vale := inv.valem _ (List.mem_of_getElem? here)
  have escreveu := escreveuEm_gravar inv.integro vale.2 ok
  have fecha : Acao.fecha s (.avancar k agora) = none := by
    simp [Acao.fecha, here]
  apply inv.passar (s.encerrar k (.ok db)) escreveu.integro escreveu.evoluiu
    (chamadas_encerrar k _)
  intro t mem closed
  have mem : t ∈ s.db.treasuries := escreveu.treasuries ▸ mem
  have fiel := inv.fechadas t mem closed
  have apagados : (fechos t.id).livro.semOsApagados (s.encerrar k (.ok db)).db.payments =
      (fechos t.id).livro.semOsApagados s.db.payments := by
    rw [show (s.encerrar k (.ok db)).db.payments = s.db.payments from escreveu.payments]
  by_cases same : (s.encerrar k (.ok db)).db.livro t.id = s.db.livro t.id
  · rw [anotarFecho_of_same (by rw [fecha]; exact nofun) same]
    exact fiel.seguir same apagados (emVoo_encerrar_le k _ _)
  · -- the book that changed is that of the call, which is no longer in flight
    have mine : t.id = id := by
      by_contra other
      exact same (escreveu.outras t.id other)
    have less : s.emVoo t.id = (s.encerrar k (.ok db)).emVoo t.id + 1 := by
      unfold TesourariasEmUso.emVoo
      rw [encerrar_chamadas, countP_eraseIdx here]
      simp [ChamadaDaTesouraria.escreveEm, mine]
    have noted : anotarFecho fechos s (.avancar k agora) (s.encerrar k (.ok db)) t.id =
        { fechos t.id with mudancas := (fechos t.id).mudancas + 1 } := by
      unfold anotarFecho
      rw [fecha, if_neg nofun, if_pos ⟨rfl, same⟩]
    rw [noted]
    apply And.intro
    · have bound := fiel.1
      dsimp only
      omega
    · intro none
      exact absurd none (Nat.succ_ne_zero _)

/-! ### Treasuries that begin, close and reopen -/

/-- The rows of treasuries change their closing only. -/
theorem integro_fecharEm (integro : s.db.Integro) {closedAt : Option Instant} {db : Tesourarias}
    (ok : s.db.fecharEm id closedAt = .ok db) :
    db = { s.db with
      treasuries := updateKey Treasury.id id (fun t => { t with closedAt }) s.db.treasuries } ∧
      db.Integro ∧ Evoluiu s.db db := by
  unfold Tesourarias.fecharEm at ok
  simp only [bind_eq_ok_iff, pure_eq_ok_iff] at ok
  obtain ⟨_, _, rfl⟩ := ok
  have old : ∀ t' ∈ updateKey Treasury.id id (fun t => { t with closedAt }) s.db.treasuries,
      ∃ t ∈ s.db.treasuries, t.id = t'.id ∧ t.eventId = t'.eventId := by
    intro t' mem
    rcases mem_updateKey.mp mem with ⟨t, mem_t, _, rfl⟩ | ⟨mem_t, _⟩
    · exact ⟨t, mem_t, rfl, rfl⟩
    · exact ⟨t', mem_t, rfl, rfl⟩
  have keep : ∀ t ∈ s.db.treasuries,
      ∃ t' ∈ updateKey Treasury.id id (fun t => { t with closedAt }) s.db.treasuries,
        t'.id = t.id ∧ t'.eventId = t.eventId := by
    intro t mem
    by_cases here : t.id = id
    · exact ⟨_, mem_updateKey.mpr (.inl ⟨t, mem, here, rfl⟩), rfl, rfl⟩
    · exact ⟨t, mem_updateKey.mpr (.inr ⟨mem, here⟩), rfl, rfl⟩
  have keyed : Keyed Treasury.id s.db.nextId
      (updateKey Treasury.id id (fun t => { t with closedAt }) s.db.treasuries) := by
    apply integro.treasuries.map
    intro t
    split <;> rfl
  refine ⟨rfl, { integro with
    treasuries := keyed
    eventos := ?_
    links := ?_ }, ⟨le_rfl, fun t' mem => .inl (old t' mem), fun p mem => .inl ⟨p, mem, rfl, rfl⟩,
      fun a mem => .inl ⟨a, mem, rfl, rfl⟩⟩⟩
  · intro a mem_a b mem_b some_event event
    obtain ⟨a', mem_a', id_a, event_a⟩ := old a mem_a
    obtain ⟨b', mem_b', id_b, event_b⟩ := old b mem_b
    have one := integro.eventos a' mem_a' b' mem_b' (event_a ▸ some_event)
      (event_a.trans (event.trans event_b.symm))
    apply keyed.eq_of_key_eq mem_a mem_b
    rw [← id_a, ← id_b, one]
  · intro link mem
    obtain ⟨p, mem_p, t, mem_t, named, owner, some_event, event⟩ := integro.links link mem
    obtain ⟨t', mem_t', same, same_event⟩ := keep t mem_t
    exact ⟨p, mem_p, t', mem_t', named, same.trans owner, same_event ▸ some_event,
      event.trans same_event.symm⟩

/-- In whole rows every link is of a payment there is. -/
theorem livro_semOsApagados {db : Tesourarias} (integro : db.Integro) (id : Id) :
    (db.livro id).semOsApagados db.payments = db.livro id := by
  simp only [Livro.semOsApagados, Tesourarias.livro, Livro.mk.injEq, true_and, and_true]
  rw [List.filter_eq_self]
  intro link mem
  obtain ⟨p, mem_p, _, _, same, _⟩ := integro.links link (List.mem_filter.mp mem).1
  exact List.any_eq_true.mpr ⟨p, mem_p, by simpa using same⟩

/-- The write of `fechar` or of `reabrir` that goes through. -/
theorem invariante_fecharEm (inv : s.Invariante fechos) {k : Nat} {agora : Instant}
    {closedAt : Option Instant} {db : Tesourarias} (ok : s.db.fecharEm id closedAt = .ok db)
    (fecha : Acao.fecha s (.avancar k agora) = if closedAt.isSome then some id else none) :
    (s.encerrar k (.ok db)).Invariante
      (anotarFecho fechos s (.avancar k agora) (s.encerrar k (.ok db))) := by
  obtain ⟨rows, integro, evoluiu⟩ := integro_fecharEm inv.integro ok
  have livro : db.livro = s.db.livro := by rw [rows]; rfl
  have payments : db.payments = s.db.payments := by rw [rows]
  apply inv.passar (s.encerrar k (.ok db)) integro evoluiu (chamadas_encerrar k _)
  intro t' mem closed
  by_cases noted : Acao.fecha s (.avancar k agora) = some t'.id
  · -- closed now: the book is the one noted
    unfold anotarFecho
    rw [if_pos noted]
    exact ⟨le_of_eq (Nat.zero_add _), fun _ => (livro_semOsApagados integro t'.id).symm⟩
  · have unnoted : anotarFecho fechos s (.avancar k agora) (s.encerrar k (.ok db)) t'.id =
        fechos t'.id := anotarFecho_of_same noted (congrFun livro t'.id)
    rw [unnoted]
    have mem : t' ∈ db.treasuries := mem
    rw [rows] at mem
    rcases mem_updateKey.mp mem with ⟨t, mem_t, here, rfl⟩ | ⟨mem_t, _⟩
    · have closed : closedAt.isSome := closed
      rw [fecha, if_pos closed] at noted
      exact absurd (congrArg some here.symm) noted
    · apply (inv.fechadas t' mem_t closed).seguir (congrFun livro t'.id)
      · exact congrArg _ payments
      · exact emVoo_encerrar_le k _ _

/-- The write of `criar` that goes through: an open treasury, alone in its event. -/
structure Criou (db depois : Tesourarias) : Prop where
  integro : depois.Integro
  evoluiu : Evoluiu db depois
  treasuries : ∀ t ∈ depois.treasuries, t ∈ db.treasuries ∨ t.closedAt = none
  livro : depois.livro = db.livro
  payments : depois.payments = db.payments

theorem criou {db fim : Tesourarias} (integro : db.Integro) {painel : Painel}
    {dto : CriarTesourariaDto} (ok : db.criarTesouraria painel dto = .ok fim) : Criou db fim := by
  unfold Tesourarias.criarTesouraria at ok
  simp only [bind_eq_ok_iff, pure_eq_ok_iff, failIf_eq_ok_iff] at ok
  obtain ⟨_, livre, _, _, rfl⟩ := ok
  have free : dto.evento.isSome → ∀ t ∈ db.treasuries, t.eventId ≠ dto.evento := by
    intro some_event t mem same
    exact livre ⟨some_event, List.any_eq_true.mpr ⟨t, mem, by simpa using same⟩⟩
  exact
    { integro :=
        { integro with
          treasuries := integro.treasuries.append_fresh rfl
          eventos := by
            intro a mem_a b mem_b some_event event
            rcases List.mem_append.mp mem_a with old_a | new_a <;>
              rcases List.mem_append.mp mem_b with old_b | new_b
            · exact integro.eventos a old_a b old_b some_event event
            · rw [List.mem_singleton.mp new_b] at event
              rw [event] at some_event
              exact absurd event (free some_event a old_a)
            · rw [List.mem_singleton.mp new_a] at event some_event
              exact absurd event.symm (free some_event b old_b)
            · rw [List.mem_singleton.mp new_a, List.mem_singleton.mp new_b]
          payments := integro.payments.mono (Nat.le_succ _)
          alocacoes := integro.alocacoes.mono (Nat.le_succ _)
          entries := integro.entries.mono (Nat.le_succ _)
          links := by
            intro link mem
            obtain ⟨p, mem_p, t, mem_t, rest⟩ := integro.links link mem
            exact ⟨p, mem_p, t, List.mem_append_left _ mem_t, rest⟩ }
      evoluiu :=
        { contador := Nat.le_succ _
          treasuries := by
            intro t mem
            rcases List.mem_append.mp mem with old | new
            · exact .inl ⟨t, old, rfl, rfl⟩
            · exact .inr (by rw [List.mem_singleton.mp new])
          payments := fun p mem => .inl ⟨p, mem, rfl, rfl⟩
          alocacoes := fun a mem => .inl ⟨a, mem, rfl, rfl⟩ }
      treasuries := by
        intro t mem
        rcases List.mem_append.mp mem with old | new
        · exact .inl old
        · exact .inr (by rw [List.mem_singleton.mp new])
      livro := rfl
      payments := rfl }

theorem invariante_criar (inv : s.Invariante fechos) {k : Nat} {agora : Instant}
    {dto : CriarTesourariaDto} {db : Tesourarias}
    (ok : s.db.criarTesouraria s.painel dto = .ok db)
    (fecha : Acao.fecha s (.avancar k agora) = none) :
    (s.encerrar k (.ok db)).Invariante
      (anotarFecho fechos s (.avancar k agora) (s.encerrar k (.ok db))) := by
  have done := criou inv.integro ok
  apply inv.passar (s.encerrar k (.ok db)) done.integro done.evoluiu (chamadas_encerrar k _)
  intro t mem closed
  have unnoted : anotarFecho fechos s (.avancar k agora) (s.encerrar k (.ok db)) t.id =
      fechos t.id := by
    apply anotarFecho_of_same
    · rw [fecha]
      exact nofun
    · exact congrFun done.livro t.id
  rw [unnoted]
  rcases done.treasuries t mem with old | opened
  · apply (inv.fechadas t old closed).seguir (congrFun done.livro t.id)
    · exact congrArg _ done.payments
    · exact emVoo_encerrar_le k _ _
  · rw [opened] at closed
    cases closed

/-! ### What happens outside -/

/-- Payments that are there or not for the same links. -/
theorem semOsApagados_congr {livro : Livro} {payments payments' : List Payment}
    (same : ∀ link ∈ livro.links, (payments.any fun p => p.id = link.paymentId) =
      payments'.any fun p => p.id = link.paymentId) :
    livro.semOsApagados payments = livro.semOsApagados payments' := by
  unfold Livro.semOsApagados
  rw [List.filter_congr same]

/-- The links of a book that outlive some payments. -/
theorem semOsApagados_filter (livro : Livro) (payments : List Payment) (p : Payment → Bool)
    (ids : (payments.map Payment.id).Nodup) :
    (livro.semOsApagados (payments.filter fun payment => !p payment)).links =
      (livro.semOsApagados payments).links.filter fun link =>
        !payments.any fun payment => payment.id = link.paymentId && p payment := by
  simp only [Livro.semOsApagados, List.filter_filter]
  apply List.filter_congr
  intro link _
  rw [Bool.eq_iff_iff]
  simp only [List.any_eq_true, List.mem_filter, Bool.not_eq_true', decide_eq_true_eq,
    Bool.and_eq_true, List.any_eq_false, not_and, Bool.not_eq_true]
  constructor
  · rintro ⟨payment, ⟨mem, kept⟩, same⟩
    refine ⟨fun other mem' same' => ?_, payment, mem, same⟩
    rw [List.inj_on_of_nodup_map ids mem' mem (same'.trans same.symm)]
    exact kept
  · rintro ⟨kept, payment, mem, same⟩
    exact ⟨payment, ⟨mem, kept payment mem same⟩, same⟩

/-- Payments are deleted: the books lose their links. -/
theorem livro_apagarPagamentos {db : Tesourarias} (integro : db.Integro) (p : Payment → Bool)
    (id : Id) {livro : Livro} (same : db.livro id = livro.semOsApagados db.payments) :
    (db.apagarPagamentos p).livro id = livro.semOsApagados (db.apagarPagamentos p).payments := by
  have kept := semOsApagados_filter livro db.payments p integro.payments.nodup
  rw [← congrArg Livro.links same] at kept
  apply Livro.ext
  · exact (Livro.ext_iff.mp same).1
  · refine Eq.trans ?_ kept.symm
    simp only [Tesourarias.livro, Tesourarias.apagarPagamentos, List.filter_filter]
    apply List.filter_congr
    intro link _
    exact Bool.and_comm _ _
  · exact (Livro.ext_iff.mp same).2.2

theorem integro_apagarPagamentos {db : Tesourarias} (integro : db.Integro) (p : Payment → Bool) :
    (db.apagarPagamentos p).Integro ∧ Evoluiu db (db.apagarPagamentos p) := by
  constructor
  · exact
      { integro with
        payments := integro.payments.filter _
        links := by
          intro link mem
          have picked := List.mem_filter.mp mem
          obtain ⟨q, mem_q, t, mem_t, named, rest⟩ := integro.links link picked.1
          refine ⟨q, List.mem_filter.mpr ⟨mem_q, ?_⟩, t, mem_t, named, rest⟩
          by_contra gone
          simp only [Bool.not_eq_true', List.any_eq_false] at picked gone
          apply picked.2 q mem_q
          simpa [named] using gone }
  · exact
      { contador := le_rfl
        treasuries := fun t mem => .inl ⟨t, mem, rfl, rfl⟩
        payments := fun q mem => .inl ⟨q, (List.mem_filter.mp mem).1, rfl, rfl⟩
        alocacoes := fun a mem => .inl ⟨a, mem, rfl, rfl⟩ }

/-- The treasury of an event goes with all it holds: the books of the others stay. -/
theorem integro_apagarEvento {db : Tesourarias} (integro : db.Integro) (eventId : Id) :
    (db.apagarEvento eventId).Integro ∧ Evoluiu db (db.apagarEvento eventId) ∧
      ∀ t ∈ (db.apagarEvento eventId).treasuries, t ∈ db.treasuries ∧
        (db.apagarEvento eventId).livro t.id =
          (db.apagarPagamentos fun p => p.eventId = some eventId).livro t.id := by
  obtain ⟨whole, evoluiu⟩ :=
    integro_apagarPagamentos integro fun p => decide (p.eventId = some eventId)
  refine ⟨{ whole with
    treasuries := whole.treasuries.filter _
    eventos := fun a mem_a b mem_b =>
      whole.eventos a (List.mem_filter.mp mem_a).1 b (List.mem_filter.mp mem_b).1
    alocacoes := whole.alocacoes.filter _
    entries := whole.entries.filter _
    links := ?_ }, ⟨le_rfl, ?_, evoluiu.payments, ?_⟩, ?_⟩
  · intro link mem
    have picked := List.mem_filter.mp mem
    obtain ⟨q, mem_q, t, mem_t, named, owner, rest⟩ := whole.links link picked.1
    refine ⟨q, mem_q, t, List.mem_filter.mpr ⟨mem_t, ?_⟩, named, owner, rest⟩
    by_contra gone
    simp only [Bool.not_eq_true', List.any_eq_false] at picked
    apply picked.2 t mem_t
    simpa [owner] using gone
  · exact fun t mem => .inl ⟨t, (List.mem_filter.mp mem).1, rfl, rfl⟩
  · exact fun a mem => .inl ⟨a, (List.mem_filter.mp mem).1, rfl, rfl⟩
  · intro t mem
    have picked := List.mem_filter.mp mem
    refine ⟨picked.1, ?_⟩
    -- the treasury that goes is another one
    have stays : ∀ id, id = t.id →
        (!db.treasuries.any fun t' => t'.id = id && t'.eventId = some eventId) = true := by
      rintro id rfl
      simp only [Bool.not_eq_true', List.any_eq_false]
      intro t' mem' both
      simp only [Bool.and_eq_true, decide_eq_true_eq] at both
      rw [integro.treasuries.eq_of_key_eq mem' picked.1 both.1] at both
      exact (of_decide_eq_true picked.2) both.2
    have filtered : ∀ {ρ : Type} (rows : List ρ) (owner : ρ → Id),
        ((rows.filter fun row =>
          !db.treasuries.any fun t' => t'.id = owner row && t'.eventId = some eventId).filter
            fun row => owner row = t.id) = rows.filter fun row => owner row = t.id := by
      intro ρ rows owner
      rw [List.filter_filter]
      apply List.filter_congr
      intro row _
      by_cases here : owner row = t.id
      · simp only [stays (owner row) here, Bool.and_true]
      · simp only [here, decide_false, Bool.false_and]
    exact Livro.ext (filtered _ _) (filtered _ _) (filtered _ _)

theorem nascer {db : Tesourarias} (integro : db.Integro) (p : Payment) :
    (db.nascerPagamento p).Integro ∧ Evoluiu db (db.nascerPagamento p) := by
  constructor
  · exact
      { integro with
        treasuries := integro.treasuries.mono (Nat.le_succ _)
        payments := integro.payments.append_fresh rfl
        alocacoes := integro.alocacoes.mono (Nat.le_succ _)
        entries := integro.entries.mono (Nat.le_succ _)
        links := by
          intro link mem
          obtain ⟨q, mem_q, rest⟩ := integro.links link mem
          exact ⟨q, List.mem_append_left _ mem_q, rest⟩ }
  · exact
      { contador := Nat.le_succ _
        treasuries := fun t mem => .inl ⟨t, mem, rfl, rfl⟩
        payments := by
          intro q mem
          rcases List.mem_append.mp mem with old | new
          · exact .inl ⟨q, old, rfl, rfl⟩
          · exact .inr (by rw [List.mem_singleton.mp new])
        alocacoes := fun a mem => .inl ⟨a, mem, rfl, rfl⟩ }

/-- A new payment has none of the old links. -/
theorem semOsApagados_nascer {db : Tesourarias} {livro : Livro}
    (old : ∀ link ∈ livro.links, link.paymentId < db.nextId) (p : Payment) :
    livro.semOsApagados (db.nascerPagamento p).payments = livro.semOsApagados db.payments := by
  apply semOsApagados_congr
  intro link mem
  have new : db.nextId ≠ link.paymentId := (old link mem).ne'
  simp [Tesourarias.nascerPagamento, new]

/-- Payments keep their ids and events. -/
theorem integro_mudarStatus {db : Tesourarias} (integro : db.Integro) (paymentId : Id)
    (status : PaymentStatus) (dia : Instant) :
    (db.mudarStatus paymentId status dia).Integro ∧
      Evoluiu db (db.mudarStatus paymentId status dia) ∧
      ∀ livro : Livro, livro.semOsApagados (db.mudarStatus paymentId status dia).payments =
        livro.semOsApagados db.payments := by
  have old : ∀ q ∈ (db.mudarStatus paymentId status dia).payments,
      ∃ p ∈ db.payments, p.id = q.id ∧ p.eventId = q.eventId := by
    intro q mem
    obtain ⟨p, mem_p, rfl⟩ := List.mem_map.mp mem
    refine ⟨p, mem_p, ?_⟩
    split <;> exact ⟨rfl, rfl⟩
  have keep : ∀ p ∈ db.payments, ∃ q ∈ (db.mudarStatus paymentId status dia).payments,
      q.id = p.id ∧ q.eventId = p.eventId := by
    intro p mem
    refine ⟨_, List.mem_map_of_mem mem, ?_⟩
    split <;> exact ⟨rfl, rfl⟩
  refine ⟨{ integro with
    payments := integro.payments.map fun p => by split <;> rfl
    links := ?_ }, ⟨le_rfl, fun t mem => .inl ⟨t, mem, rfl, rfl⟩, fun q mem => .inl (old q mem),
      fun a mem => .inl ⟨a, mem, rfl, rfl⟩⟩, ?_⟩
  · intro link mem
    obtain ⟨p, mem_p, t, mem_t, named, owner, some_event, event⟩ := integro.links link mem
    obtain ⟨q, mem_q, same, same_event⟩ := keep p mem_p
    exact ⟨q, mem_q, t, mem_t, same.trans named, owner, some_event, same_event.trans event⟩
  · intro livro
    apply semOsApagados_congr
    intro link _
    rw [Tesourarias.mudarStatus, List.any_map]
    congr 1
    funext p
    simp only [Function.comp]
    split <;> rfl

/-! ### Any step -/

/-- A call begins, if its checks pass, on a treasury that is not closed. -/
theorem invariante_iniciar (inv : s.Invariante fechos) {acao : TesourariasEmUso.Acao}
    (open_ : acao.fecha s = none) {chamada : Except Failure ChamadaDaTesouraria}
    (vale : ∀ c, chamada = .ok c → c.Vale s.db ∧
      ∀ t ∈ s.db.treasuries, t.closedAt.isSome → c.escreveEm ≠ some t.id) :
    (s.iniciar chamada).Invariante (anotarFecho fechos s acao (s.iniciar chamada)) := by
  cases chamada with
  | error falha => exact inv.semEscrever s open_ rfl inv.valem fun t _ _ => le_rfl
  | ok c =>
      obtain ⟨vale, apart⟩ := vale c rfl
      apply inv.semEscrever (s.iniciar (.ok c)) open_ rfl
      · intro other mem
        rcases List.mem_append.mp mem with old | new
        · exact inv.valem other old
        · rw [List.mem_singleton.mp new]
          exact vale
      · intro t mem closed
        have none : ¬ c.escreveEm = some t.id := apart t mem closed
        simp [TesourariasEmUso.emVoo, TesourariasEmUso.iniciar, none]

theorem exigirAbertaPor_ok {painel : Painel} {quem : Solicitante} {t : Treasury}
    (ok : s.db.exigirAbertaPor painel id quem = .ok t) :
    t ∈ s.db.treasuries ∧ t.id = id ∧ t.closedAt = none := by
  unfold Tesourarias.exigirAbertaPor at ok
  rw [bind_eq_ok_iff] at ok
  obtain ⟨_, _, opened⟩ := ok
  have there := exigirAberta_ok opened
  unfold Tesourarias.exigirAberta at opened
  simp only [bind_eq_ok_iff, failIf_eq_ok_iff, pure_eq_ok_iff] at opened
  obtain ⟨_, _, _, still, rfl⟩ := opened
  exact ⟨there.1, there.2, by simpa using still⟩

theorem invariante_pedir (inv : s.Invariante fechos) (quem : Solicitante) (id : Id)
    (op : OperacaoDaTesouraria) :
    (s.agir brl (.pedir quem id op)).Invariante
      (anotarFecho fechos s (.pedir quem id op) (s.agir brl (.pedir quem id op))) := by
  apply invariante_iniciar inv rfl
  intro c ok
  simp only [bind_eq_ok_iff, pure_eq_ok_iff] at ok
  obtain ⟨t, opened, rfl⟩ := ok
  obtain ⟨mem, _, still⟩ := exigirAbertaPor_ok opened
  have one : ∀ t' ∈ s.db.treasuries, t'.id = t.id → t' = t :=
    fun t' mem' same => inv.integro.treasuries.eq_of_key_eq mem' mem same
  constructor
  · exact ⟨inv.integro.treasuries.lt_next t mem, fun t' mem' same => by rw [one t' mem' same]⟩
  · intro t' mem' closed same
    rw [one t' mem' (Option.some.inj same).symm, still] at closed
    cases closed

theorem invariante_avancar (inv : s.Invariante fechos) (k : Nat) (agora : Instant) :
    (s.agir brl (.avancar k agora)).Invariante
      (anotarFecho fechos s (.avancar k agora) (s.agir brl (.avancar k agora))) := by
  unfold TesourariasEmUso.agir
  dsimp only
  split
  · next c here =>
      have vale := inv.valem c (List.mem_of_getElem? here)
      -- an exception only ends the call
      have failed : Acao.fecha s (.avancar k agora) = none → ∀ falha : Failure,
          (s.encerrar k (.error falha)).Invariante
            (anotarFecho fechos s (.avancar k agora) (s.encerrar k (.error falha))) := by
        intro open_ falha
        apply inv.semEscrever (s.encerrar k (.error falha)) open_ rfl
        · exact fun c mem => inv.valem c (chamadas_encerrar k (.error falha) mem)
        · exact fun t _ _ => emVoo_encerrar_le k (.error falha) t.id
      cases c with
      | ler t op =>
          have open_ : Acao.fecha s (.avancar k agora) = none := by simp [Acao.fecha, here]
          unfold TesourariasEmUso.avancar
          dsimp only
          cases read : s.db.ler brl t op with
          | error falha => exact failed open_ falha
          | ok escrita =>
              apply inv.semEscrever { s with chamadas := s.chamadas.set k (.gravar t.id escrita) }
                open_ rfl
              · intro c mem
                rcases List.mem_or_eq_of_mem_set mem with old | rfl
                · exact inv.valem c old
                · exact ⟨vale.1, vale_ler inv.integro vale read⟩
              · intro t' _ _
                exact le_of_eq (countP_set here rfl)
      | gravar id escrita =>
          unfold TesourariasEmUso.avancar
          dsimp only
          cases done : s.db.gravar id escrita with
          | error falha => exact failed (by simp [Acao.fecha, here]) falha
          | ok db => exact invariante_gravar inv here done
      | fechar id =>
          have closes : Acao.fecha s (.avancar k agora) = some id := by simp [Acao.fecha, here]
          unfold TesourariasEmUso.avancar
          dsimp only
          cases done : s.db.fecharEm id (some agora) with
          | ok db => exact invariante_fecharEm inv done closes
          | error falha =>
              apply inv.passar (s.encerrar k (.error falha)) inv.integro (.refl _)
                (chamadas_encerrar k (.error falha))
              intro t mem closed
              have other : t.id ≠ id := by
                intro same
                unfold Tesourarias.fecharEm at done
                obtain ⟨row, found⟩ := Option.isSome_iff_exists.mp
                  (lookup_isSome_of_mem Treasury.id mem)
                have found : lookup Treasury.id t.id s.db.treasuries = some row := found
                rw [← same, found] at done
                cases done
              have unnoted : anotarFecho fechos s (.avancar k agora) (s.encerrar k (.error falha))
                  t.id = fechos t.id := by
                apply anotarFecho_of_same
                · rw [closes]
                  exact fun same => other (Option.some.inj same).symm
                · rfl
              rw [unnoted]
              exact (inv.fechadas t mem closed).seguir rfl rfl
                (emVoo_encerrar_le k (.error falha) t.id)
      | reabrir id =>
          have open_ : Acao.fecha s (.avancar k agora) = none := by simp [Acao.fecha, here]
          unfold TesourariasEmUso.avancar
          dsimp only
          cases done : s.db.fecharEm id none with
          | ok db => exact invariante_fecharEm inv done open_
          | error falha => exact failed open_ falha
      | criar dto =>
          have open_ : Acao.fecha s (.avancar k agora) = none := by simp [Acao.fecha, here]
          unfold TesourariasEmUso.avancar
          dsimp only
          cases done : s.db.criarTesouraria s.painel dto with
          | ok db => exact invariante_criar inv done open_
          | error falha => exact failed open_ falha
  · next absent =>
      have open_ : Acao.fecha s (.avancar k agora) = none := by simp [Acao.fecha, absent]
      exact inv.semEscrever s open_ rfl inv.valem fun t _ _ => le_rfl

theorem invariante_agir (inv : s.Invariante fechos) (acao : TesourariasEmUso.Acao) :
    (s.agir brl acao).Invariante (anotarFecho fechos s acao (s.agir brl acao)) := by
  cases acao with
  | pedir quem id op => exact invariante_pedir inv quem id op
  | fechar quem id =>
      apply invariante_iniciar inv rfl
      intro c ok
      simp only [bind_eq_ok_iff, pure_eq_ok_iff] at ok
      obtain ⟨_, _, _, _, rfl⟩ := ok
      refine ⟨trivial, ?_⟩
      intro t _ _ writes
      cases writes
  | reabrir quem id =>
      apply invariante_iniciar inv rfl
      intro c ok
      simp only [bind_eq_ok_iff, pure_eq_ok_iff] at ok
      obtain ⟨_, _, _, _, rfl⟩ := ok
      refine ⟨trivial, ?_⟩
      intro t _ _ writes
      cases writes
  | criar quem dto =>
      apply invariante_iniciar inv rfl
      intro c ok
      simp only [bind_eq_ok_iff, pure_eq_ok_iff] at ok
      obtain ⟨_, _, _, _, rfl⟩ := ok
      refine ⟨trivial, ?_⟩
      intro t _ _ writes
      cases writes
  | avancar k agora => exact invariante_avancar inv k agora
  | desistir k =>
      apply inv.semEscrever { s with chamadas := s.chamadas.eraseIdx k } rfl rfl
      · exact fun c mem => inv.valem c (List.eraseIdx_subset mem)
      · exact fun t _ _ => countP_eraseIdx_le _ _ _
  | mudarPainel painel =>
      exact inv.semEscrever { s with painel } rfl rfl inv.valem fun t _ _ => le_rfl
  | mudarBanco integracao movimentos =>
      apply inv.porFora { s.db with integracao, movimentos } ⟨rfl, rfl⟩ { inv.integro with }
      · exact ⟨le_rfl, fun t mem => .inl ⟨t, mem, rfl, rfl⟩, fun p mem => .inl ⟨p, mem, rfl, rfl⟩,
          fun a mem => .inl ⟨a, mem, rfl, rfl⟩⟩
      · exact fun t mem closed => ⟨t, mem, rfl, closed⟩
      · exact fun t mem livro old same => same
  | nascerPagamento p =>
      obtain ⟨integro, evoluiu⟩ := nascer inv.integro p
      apply inv.porFora _ ⟨rfl, rfl⟩ integro evoluiu
      · exact fun t mem closed => ⟨t, mem, rfl, closed⟩
      · intro t mem livro old same
        rw [semOsApagados_nascer old]
        exact same
  | mudarStatus paymentId status dia =>
      obtain ⟨integro, evoluiu, keep⟩ := integro_mudarStatus inv.integro paymentId status dia
      apply inv.porFora _ ⟨rfl, rfl⟩ integro evoluiu
      · exact fun t mem closed => ⟨t, mem, rfl, closed⟩
      · intro t mem livro old same
        rw [keep]
        exact same
  | apagarPagamentos p =>
      obtain ⟨integro, evoluiu⟩ := integro_apagarPagamentos inv.integro p
      apply inv.porFora _ ⟨rfl, rfl⟩ integro evoluiu
      · exact fun t mem closed => ⟨t, mem, rfl, closed⟩
      · exact fun t mem livro old same => livro_apagarPagamentos inv.integro p t.id same
  | apagarEvento eventId =>
      obtain ⟨integro, evoluiu, stay⟩ := integro_apagarEvento inv.integro eventId
      apply inv.porFora _ ⟨rfl, rfl⟩ integro evoluiu
      · exact fun t mem closed => ⟨t, (stay t mem).1, rfl, closed⟩
      · intro t mem livro old same
        rw [(stay t mem).2]
        exact livro_apagarPagamentos inv.integro _ t.id same

end Passos

/-- A church without treasuries or payments. -/
def TesourariasEmUso.vazias (painel : Painel) (churchId : Id)
    (integracao : Option PluggyIntegration) (movimentos : List FinancialEntry)
    (fullName : Id → Option String) (diaDoPagamento : Id → Instant) : TesourariasEmUso where
  painel := painel
  db :=
    { churchId, integracao, movimentos, fullName, diaDoPagamento
      treasuries := []
      payments := []
      alocacoes := []
      links := []
      entries := []
      nextId := 0 }
  chamadas := []

/-- In every interleaving of the requests of the treasuries, with payments that come, change and go,
a closed treasury was changed since its closing at most once for each request then in flight; and if
by none, it holds what it held, without the links of the payments that were deleted. -/
theorem livro_fechado_run (brl : Int → String) (painel : Painel) (churchId : Id)
    (integracao : Option PluggyIntegration) (movimentos : List FinancialEntry)
    (fullName : Id → Option String) (diaDoPagamento : Id → Instant)
    (acoes : List TesourariasEmUso.Acao) :
    Always (withHistory (TesourariasEmUso.agir brl) anotarFecho) (fun s => s.1.Fechadas s.2)
      (.vazias painel churchId integracao movimentos fullName diaDoPagamento,
        fun _ => ⟨⟨[], [], []⟩, 0, 0⟩) acoes := by
  have start : (TesourariasEmUso.vazias painel churchId integracao movimentos fullName
      diaDoPagamento).Invariante fun _ => ⟨⟨[], [], []⟩, 0, 0⟩ :=
    { integro :=
        { treasuries := .nil
          eventos := nofun
          payments := .nil
          alocacoes := .nil
          entries := .nil
          links := nofun }
      valem := by simp [TesourariasEmUso.vazias]
      lembrados := by simp
      fechadas := by simp [TesourariasEmUso.Fechadas, TesourariasEmUso.vazias] }
  have keep : ∀ (s : TesourariasEmUso × Fechos) (acao : TesourariasEmUso.Acao),
      s.1.Invariante s.2 →
        (withHistory (TesourariasEmUso.agir brl) anotarFecho s acao).1.Invariante
          (withHistory (TesourariasEmUso.agir brl) anotarFecho s acao).2 :=
    fun s acao inv => invariante_agir inv acao
  have run := always_of_step keep (s := (_, _)) start acoes
  exact run.mono fun _ inv => inv.fechadas

end IccvBackend
