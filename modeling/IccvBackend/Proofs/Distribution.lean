/-
Module: IccvBackend.Proofs.Distribution
Purpose: When the allocations of a bank movement stay within its value, over all interleavings of
  the calls that write them.
Trusted boundary: none
Main exports: Tesourarias.ComChaves, Tesourarias.DentroDoValor, CabeNoQueSobrou,
  dentroDoValor_run_iff, not_dentroDoValor_duasLeituras
-/
import IccvBackend.Treasury.Concurrent
import Mathlib.Algebra.Order.BigOperators.Group.List

namespace IccvBackend

open Lib

/-! ### The law -/

/-- The unique key of an allocation. -/
def TreasuryAllocation.chave (a : TreasuryAllocation) : Id × Id := (a.treasuryId, a.entryId)

/-- No movement is distributed beyond its value. -/
def Tesourarias.DentroDoValor (db : Tesourarias) : Prop :=
  ∀ id m, db.movimento? id = some m → db.distribuido id ≤ m.amount

/-- The unique key of the allocations, and allocations that are not negative. -/
structure Tesourarias.AlocacoesValidas (db : Tesourarias) : Prop where
  chaves : (db.alocacoes.map TreasuryAllocation.chave).Nodup
  nonneg : ∀ a ∈ db.alocacoes, 0 ≤ a.amount

/-- The call ends its transaction with the next statement. -/
def Ponto.vaiConfirmar : Ponto → Bool
  | .distribuir [] => true
  | .confirmar => true
  | _ => false

/-- What was committed to each movement between the last read of its remainder by the call and its
commit fits in the part of that remainder the call left. -/
def CabeNoQueSobrou (s : EmCurso) : EmCurso.Acao → Prop
  | .avancar k => ∀ c, s.chamadas[k]? = some c → c.ponto.vaiConfirmar →
      ∀ m e, (c.escritas.find? fun e => e.movimentoId = m) = some e →
        s.db.distribuido m - e.visto ≤ e.restante - e.valor
  | _ => True

instance (s : EmCurso) : (acao : EmCurso.Acao) → Decidable (CabeNoQueSobrou s acao)
  | .avancar k =>
      decidable_of_iff (∀ c ∈ s.chamadas[k]?, c.ponto.vaiConfirmar → ∀ e ∈ c.escritas,
          (c.escritas.find? fun e' => e'.movimentoId = e.movimentoId) = some e →
            s.db.distribuido e.movimentoId - e.visto ≤ e.restante - e.valor) <| by
        constructor
        · intro all c at_k goes m e found
          obtain rfl : e.movimentoId = m := by simpa using List.find?_some found
          exact all c at_k goes e (List.mem_of_find?_eq_some found) found
        · exact fun all c at_k goes e _ found => all c at_k goes e.movimentoId e found
  | .distribuir .. | .conciliar .. | .devolver .. | .desfazer .. | .desistir _ => isTrue trivial

/-! ### Allocations -/

section Alocacoes

variable {db : Tesourarias}

/-- An allocation that is not the one written stays. -/
theorem map_somar_of_notMem {rows : List TreasuryAllocation} {treasuryId entryId : Id}
    (amount : Int) (other : (treasuryId, entryId) ∉ rows.map TreasuryAllocation.chave) :
    (rows.map fun a =>
      if a.treasuryId = treasuryId && a.entryId = entryId then
        { a with amount := a.amount + amount }
      else a) = rows := by
  refine (List.map_congr_left fun a mem => if_neg fun same => other ?_).trans (List.map_id _)
  simp only [Bool.and_eq_true, decide_eq_true_eq] at same
  exact List.mem_map.mpr ⟨a, mem, Prod.ext same.1 same.2⟩

theorem sum_somar {rows : List TreasuryAllocation} {treasuryId entryId : Id} (amount : Int)
    (m : Id) (chaves : (rows.map TreasuryAllocation.chave).Nodup)
    (found : (treasuryId, entryId) ∈ rows.map TreasuryAllocation.chave) :
    (((rows.map fun a =>
        if a.treasuryId = treasuryId && a.entryId = entryId then
          { a with amount := a.amount + amount }
        else a).filter fun a => a.entryId = m).map TreasuryAllocation.amount).sum =
      ((rows.filter fun a => a.entryId = m).map TreasuryAllocation.amount).sum +
        if entryId = m then amount else 0 := by
  induction rows with
  | nil => simp at found
  | cons a rows ih =>
      rw [List.map_cons, List.nodup_cons] at chaves
      obtain ⟨new, chaves⟩ := chaves
      rw [List.map_cons]
      by_cases here : a.treasuryId = treasuryId ∧ a.entryId = entryId
      · obtain ⟨rfl, rfl⟩ := here
        rw [map_somar_of_notMem amount new]
        by_cases same : a.entryId = m
        · simp [same]
          ring
        · simp [same]
      · have tail : (treasuryId, entryId) ∈ rows.map TreasuryAllocation.chave := by
          rcases List.mem_cons.mp found with same | tail
          · exact absurd ⟨(Prod.ext_iff.mp same).1.symm, (Prod.ext_iff.mp same).2.symm⟩ here
          · exact tail
        have kept :
            (decide (a.treasuryId = treasuryId) && decide (a.entryId = entryId)) = false := by
          simpa using here
        have rest := ih chaves tail
        simp only [kept, Bool.false_eq_true, if_false]
        by_cases same : a.entryId = m
        · simp only [same, decide_true, List.filter_cons_of_pos, List.map_cons, List.sum_cons, rest]
          ring
        · simp only [same, decide_false, Bool.false_eq_true, not_false_eq_true,
            List.filter_cons_of_neg, rest]

/-- The allocation of a movement in a treasury is found by its key. -/
theorem alocacao?_isSome_iff {treasuryId entryId : Id} :
    (db.alocacao? treasuryId entryId).isSome ↔
      (treasuryId, entryId) ∈ db.alocacoes.map TreasuryAllocation.chave := by
  simp [Tesourarias.alocacao?, TreasuryAllocation.chave, List.find?_isSome]

@[simp] theorem criarAlocacao_alocacoes (treasuryId entryId : Id) (amount : Int)
    (category : Option String) :
    (db.criarAlocacao treasuryId entryId amount category).alocacoes =
      db.alocacoes ++ [⟨db.nextId, treasuryId, entryId, amount, category⟩] := rfl

theorem distribuido_somarAlocacao (valid : db.AlocacoesValidas) (treasuryId entryId : Id)
    (amount : Int) (category : Option String) (m : Id) :
    (db.somarAlocacao treasuryId entryId amount category).distribuido m =
      db.distribuido m + if entryId = m then amount else 0 := by
  unfold Tesourarias.somarAlocacao
  split
  · next a found =>
      exact sum_somar amount m valid.chaves (alocacao?_isSome_iff.mp (by rw [found]; rfl))
  · by_cases same : entryId = m <;> simp [Tesourarias.distribuido, same]

theorem Tesourarias.AlocacoesValidas.somarAlocacao (valid : db.AlocacoesValidas)
    (treasuryId entryId : Id) {amount : Int} (nonneg : 0 ≤ amount) (category : Option String) :
    (db.somarAlocacao treasuryId entryId amount category).AlocacoesValidas := by
  unfold Tesourarias.somarAlocacao
  split
  · constructor
    · have same : ((db.alocacoes.map fun a =>
          if a.treasuryId = treasuryId && a.entryId = entryId then
            { a with amount := a.amount + amount }
          else a).map TreasuryAllocation.chave) = db.alocacoes.map TreasuryAllocation.chave := by
        rw [List.map_map]
        refine List.map_congr_left fun a _ => ?_
        dsimp only [Function.comp]
        split <;> rfl
      exact same ▸ valid.chaves
    · intro a mem
      obtain ⟨old, mem_old, rfl⟩ := List.mem_map.mp mem
      have old_nonneg := valid.nonneg old mem_old
      split
      · exact Int.add_nonneg old_nonneg nonneg
      · exact old_nonneg
  · next not_found =>
      constructor
      · rw [criarAlocacao_alocacoes, List.map_append, List.nodup_append]
        refine ⟨valid.chaves, by simp, ?_⟩
        rintro chave mem _ new rfl
        obtain rfl := List.mem_singleton.mp new
        have found := alocacao?_isSome_iff.mpr mem
        rw [not_found] at found
        exact Bool.false_ne_true found
      · intro a mem
        rcases List.mem_append.mp mem with old | new
        · exact valid.nonneg a old
        · obtain rfl := List.mem_singleton.mp new
          exact nonneg

theorem movimento?_somarAlocacao (treasuryId entryId : Id) (amount : Int)
    (category : Option String) (id : Id) :
    (db.somarAlocacao treasuryId entryId amount category).movimento? id = db.movimento? id := by
  unfold Tesourarias.somarAlocacao
  split <;> rfl

/-- Deleting an allocation leaves no movement more distributed than it was. -/
theorem distribuido_soltar (valid : db.AlocacoesValidas) (treasuryId entryId alocacaoId m : Id) :
    (db.soltar treasuryId entryId alocacaoId).distribuido m ≤ db.distribuido m := by
  unfold Tesourarias.distribuido Tesourarias.soltar
  refine List.Sublist.sum_le_sum ((List.filter_sublist.filter _).map _) fun amount mem => ?_
  obtain ⟨a, mem_a, rfl⟩ := List.mem_map.mp mem
  exact valid.nonneg a (List.mem_of_mem_filter mem_a)

theorem Tesourarias.AlocacoesValidas.soltar (valid : db.AlocacoesValidas)
    (treasuryId entryId alocacaoId : Id) :
    (db.soltar treasuryId entryId alocacaoId).AlocacoesValidas where
  chaves := valid.chaves.sublist (List.filter_sublist.map _)
  nonneg a mem := valid.nonneg a (List.mem_of_mem_filter mem)

end Alocacoes

/-! ### The books of a call -/

section Chamadas

variable {db : Tesourarias} {s : EmCurso}

/-- What the writes of an open transaction add to a movement. -/
def pendente (escritas : List EscritaAberta) (m : Id) : Int :=
  ((escritas.filter fun e => e.movimentoId = m).map EscritaAberta.valor).sum

@[simp] theorem pendente_cons (e : EscritaAberta) (es : List EscritaAberta) (m : Id) :
    pendente (e :: es) m = (if e.movimentoId = m then e.valor else 0) + pendente es m := by
  by_cases same : e.movimentoId = m <;> simp [pendente, same]

/-- A remainder read in a transaction: the value of the movement less what was committed and what
the transaction itself had written, of which the write takes a part. -/
structure EscritaAberta.Certa (db : Tesourarias) (antes : List EscritaAberta)
    (e : EscritaAberta) : Prop where
  nonneg : 0 ≤ e.valor
  lido : ∃ m, db.movimento? e.movimentoId = some m ∧
    e.visto + pendente antes e.movimentoId + e.restante = m.amount

/-- Every write of a transaction took from the remainder as the writes before it left it. -/
def Certas (db : Tesourarias) : List EscritaAberta → Prop
  | [] => True
  | e :: antes => e.Certa db antes ∧ Certas db antes

/-- The write a call is about to make fits the books too, and `conciliar` has made none. -/
def Ponto.Certo (db : Tesourarias) (escritas : List EscritaAberta) : Ponto → Prop
  | .somar e _ => e.Certa db escritas
  | .criar e => e.Certa db escritas
  | .conciliar _ _ => escritas = []
  | .conciliarInteiro _ _ => escritas = []
  | _ => True

structure ChamadaAberta.Certa (db : Tesourarias) (c : ChamadaAberta) : Prop where
  escritas : Certas db c.escritas
  ponto : c.ponto.Certo db c.escritas

/-- The invariant of a run: the law, and the books of every call in flight. -/
structure EmCurso.Invariante (s : EmCurso) : Prop where
  valid : s.db.AlocacoesValidas
  lei : s.db.DentroDoValor
  certas : ∀ c ∈ s.chamadas, c.Certa s.db

theorem certas_congr {depois : Tesourarias} (same : ∀ id, depois.movimento? id = db.movimento? id)
    {es : List EscritaAberta} (certas : Certas db es) : Certas depois es := by
  induction es with
  | nil => trivial
  | cons e antes ih =>
      obtain ⟨⟨nonneg, m, found, lido⟩, rest⟩ := certas
      exact ⟨⟨nonneg, m, (same _).trans found, lido⟩, ih rest⟩

theorem EscritaAberta.Certa.congr {depois : Tesourarias} {e : EscritaAberta}
    {antes : List EscritaAberta}
    (certa : e.Certa db antes) (same : ∀ id, depois.movimento? id = db.movimento? id) :
    e.Certa depois antes := by
  obtain ⟨nonneg, m, found, lido⟩ := certa
  exact ⟨nonneg, m, (same _).trans found, lido⟩

theorem ChamadaAberta.Certa.congr {depois : Tesourarias} {c : ChamadaAberta} (certa : c.Certa db)
    (same : ∀ id, depois.movimento? id = db.movimento? id) : c.Certa depois := by
  obtain ⟨escritas, ponto⟩ := certa
  refine ⟨certas_congr same escritas, ?_⟩
  cases at_ : c.ponto with
  | somar e partes => rw [at_] at ponto; exact EscritaAberta.Certa.congr ponto same
  | criar e => rw [at_] at ponto; exact EscritaAberta.Certa.congr ponto same
  | conciliar m category => rw [at_] at ponto; exact ponto
  | conciliarInteiro m category => rw [at_] at ponto; exact ponto
  | _ => trivial

/-- What a transaction sees: the committed rows with its own writes added. -/
theorem ver_spec (valid : db.AlocacoesValidas) {c : ChamadaAberta} (certas : Certas db c.escritas) :
    (c.ver db).AlocacoesValidas ∧ (∀ id, (c.ver db).movimento? id = db.movimento? id) ∧
      ∀ m, (c.ver db).distribuido m = db.distribuido m + pendente c.escritas m := by
  unfold ChamadaAberta.ver
  revert certas
  generalize c.escritas = escritas
  intro certas
  induction escritas with
  | nil => exact ⟨valid, fun _ => rfl, fun m => by simp [pendente]⟩
  | cons e antes ih =>
      obtain ⟨valid', same, sums⟩ := ih certas.2
      simp only [List.foldr_cons]
      refine ⟨valid'.somarAlocacao _ _ certas.1.nonneg _,
        fun id => (movimento?_somarAlocacao _ _ _ _ id).trans (same id), fun m => ?_⟩
      rw [distribuido_somarAlocacao valid', sums, pendente_cons]
      ring

/-- The last write of a movement knows what the transaction adds to it. -/
theorem certas_find? {es : List EscritaAberta} (certas : Certas db es) {m : Id} {e : EscritaAberta}
    (found : (es.find? fun e => e.movimentoId = m) = some e) :
    ∃ movimento, db.movimento? m = some movimento ∧
      e.visto + pendente es m + (e.restante - e.valor) = movimento.amount := by
  induction es with
  | nil => simp at found
  | cons first antes ih =>
      obtain ⟨⟨_, movimento, there, lido⟩, rest⟩ := certas
      by_cases here : first.movimentoId = m
      · rw [List.find?_cons_of_pos (by simpa using here)] at found
        obtain rfl := Option.some.inj found
        refine ⟨movimento, here ▸ there, ?_⟩
        rw [pendente_cons, if_pos here, ← here]
        omega
      · rw [List.find?_cons_of_neg (by simpa using here)] at found
        obtain ⟨movimento, there, sums⟩ := ih rest found
        exact ⟨movimento, there, by rw [pendente_cons, if_neg here]; omega⟩

theorem pendente_eq_zero {es : List EscritaAberta} {m : Id}
    (none_found : (es.find? fun e => e.movimentoId = m) = none) : pendente es m = 0 := by
  have empty : es.filter (fun e => decide (e.movimentoId = m)) = [] := by
    simpa [List.filter_eq_nil_iff] using none_found
  rw [pendente, empty]
  rfl

/-- A commit keeps every movement within its value exactly when what was committed meanwhile fits
in what the call left. -/
theorem dentroDoValor_ver (valid : db.AlocacoesValidas) (lei : db.DentroDoValor) {c : ChamadaAberta}
    (certas : Certas db c.escritas) :
    (c.ver db).DentroDoValor ↔ ∀ m e, (c.escritas.find? fun e => e.movimentoId = m) = some e →
      db.distribuido m - e.visto ≤ e.restante - e.valor := by
  obtain ⟨_, same, sums⟩ := ver_spec valid certas
  constructor
  · intro after m e found
    obtain ⟨movimento, there, books⟩ := certas_find? certas found
    have bound := after m movimento ((same m).trans there)
    rw [sums] at bound
    omega
  · intro fits m movimento there
    rw [same] at there
    rw [sums]
    cases found : c.escritas.find? fun e => e.movimentoId = m with
    | none =>
        rw [pendente_eq_zero found]
        have bound := lei m movimento there
        omega
    | some e =>
        obtain ⟨movimento', there', books⟩ := certas_find? certas found
        obtain rfl := Option.some.inj (there.symm.trans there')
        have bound := fits m e found
        omega

theorem restanteDe_ok {account : TreasuryAccount} {m : Id} {restante : Int}
    (ok : db.restanteDe account m = .ok restante) :
    ∃ movimento, db.movimento? m = some movimento ∧
      restante = movimento.amount - db.distribuido m := by
  unfold Tesourarias.restanteDe at ok
  simp only [bind_eq_ok_iff, orFail_eq_ok_iff, pure_eq_ok_iff] at ok
  obtain ⟨movimento, found, rfl⟩ := ok
  exact ⟨movimento, (Option.filter_eq_some_iff.mp found).1, rfl⟩

theorem tomar_ok {parte : Parte} {restante valor : Int} (ok : parte.tomar restante = .ok valor) :
    0 < valor ∧ valor ≤ restante := by
  unfold Parte.tomar at ok
  dsimp only at ok
  split at ok
  · exact nomatch ok
  · next pos =>
      obtain rfl := pure_eq_ok_iff.mp ok
      exact ⟨not_le.mp pos, min_le_right _ _⟩

/-- A remainder read after these writes of a transaction leaves right books. -/
theorem certa_lida (valid : db.AlocacoesValidas) {c : ChamadaAberta} (certas : Certas db c.escritas)
    {account : TreasuryAccount} {e : EscritaAberta}
    (ok : (c.ver db).restanteDe account e.movimentoId = .ok e.restante)
    (visto : e.visto = db.distribuido e.movimentoId) (nonneg : 0 ≤ e.valor) :
    e.Certa db c.escritas := by
  obtain ⟨_, same, sums⟩ := ver_spec valid certas
  obtain ⟨movimento, there, restante⟩ := restanteDe_ok ok
  refine ⟨nonneg, movimento, (same _).symm.trans there, ?_⟩
  rw [restante, sums, visto]
  ring

/-! ### One step -/

theorem EmCurso.Invariante.seguir (inv : s.Invariante) {depois : EmCurso}
    (valid : depois.db.AlocacoesValidas) (lei : depois.db.DentroDoValor)
    (same : ∀ id, depois.db.movimento? id = s.db.movimento? id)
    (chamadas : ∀ c ∈ depois.chamadas, c ∈ s.chamadas ∨ c.Certa s.db) : depois.Invariante where
  valid := valid
  lei := lei
  certas c mem := by
    rcases chamadas c mem with old | new
    · exact (inv.certas c old).congr same
    · exact new.congr same

theorem EmCurso.Invariante.encerrar (inv : s.Invariante) (k : Nat) : (s.encerrar k).Invariante :=
  inv.seguir inv.valid inv.lei (fun _ => rfl) fun _ mem => .inl (List.mem_of_mem_eraseIdx mem)

theorem EmCurso.Invariante.set (inv : s.Invariante) (k : Nat) {c : ChamadaAberta}
    (certa : c.Certa s.db) :
    EmCurso.Invariante { s with chamadas := s.chamadas.set k c } := by
  refine inv.seguir inv.valid inv.lei (fun _ => rfl) fun other mem => ?_
  rcases List.mem_or_eq_of_mem_set mem with old | rfl
  · exact .inl old
  · exact .inr certa

theorem EmCurso.Invariante.iniciar (inv : s.Invariante) (id : Id) {ponto : Ponto}
    (inicio : ponto.Certo s.db []) : (s.iniciar id ponto).Invariante := by
  unfold EmCurso.iniciar
  split
  · refine inv.seguir inv.valid inv.lei (fun _ => rfl) fun c mem => ?_
    rcases List.mem_append.mp mem with old | new
    · exact .inl old
    · obtain rfl := List.mem_singleton.mp new
      exact .inr ⟨trivial, inicio⟩
  · exact inv

/-- A commit, when what was committed meanwhile fits in what the call left. -/
theorem EmCurso.Invariante.confirmar (inv : s.Invariante) {k : Nat} {c : ChamadaAberta}
    (mem : c ∈ s.chamadas)
    (fits : ∀ m e, (c.escritas.find? fun e => e.movimentoId = m) = some e →
      s.db.distribuido m - e.visto ≤ e.restante - e.valor) :
    (EmCurso.encerrar { s with db := c.ver s.db } k).Invariante := by
  have certas := (inv.certas c mem).escritas
  obtain ⟨valid, same, _⟩ := ver_spec inv.valid certas
  exact inv.seguir valid ((dentroDoValor_ver inv.valid inv.lei certas).mpr fits) same
    fun _ mem => .inl (List.mem_of_mem_eraseIdx mem)

theorem EmCurso.Invariante.avancar (inv : s.Invariante) {k : Nat} {c : ChamadaAberta}
    (mem : c ∈ s.chamadas)
    (fits : c.ponto.vaiConfirmar → ∀ m e,
      (c.escritas.find? fun e => e.movimentoId = m) = some e →
        s.db.distribuido m - e.visto ≤ e.restante - e.valor) :
    (s.avancar k c).Invariante := by
  have certa := inv.certas c mem
  have at_ponto := certa.ponto
  unfold EmCurso.avancar
  cases ponto : c.ponto with
  | distribuir partes =>
      cases partes with
      | nil => exact inv.confirmar mem (fits (by rw [ponto]; rfl))
      | cons parte partes =>
          dsimp only
          split
          · next restante read =>
              split
              · next valor taken =>
                  refine inv.set k ⟨certa.escritas, ?_⟩
                  exact certa_lida inv.valid certa.escritas read rfl (tomar_ok taken).1.le
              · exact inv.encerrar k
          · exact inv.encerrar k
  | somar e partes =>
      rw [ponto] at at_ponto
      dsimp only
      split
      · exact inv
      · exact inv.set k ⟨⟨at_ponto, certa.escritas⟩, trivial⟩
  | conciliar m category =>
      rw [ponto] at at_ponto
      dsimp only
      split
      · exact inv.encerrar k
      · split
        · exact inv.set k ⟨certa.escritas, trivial⟩
        · exact inv.set k ⟨certa.escritas, at_ponto⟩
  | conciliarInteiro m category =>
      rw [ponto] at at_ponto
      dsimp only
      split
      · next restante read =>
          obtain ⟨movimento, there, rfl⟩ := restanteDe_ok read
          have bound := inv.lei m movimento there
          refine inv.set k ⟨certa.escritas, Int.sub_nonneg_of_le bound, movimento, there, ?_⟩
          rw [show c.escritas = [] from at_ponto]
          simp [pendente]
      · exact inv.encerrar k
  | criar e =>
      rw [ponto] at at_ponto
      dsimp only
      split
      · exact inv
      · split
        · exact inv.encerrar k
        · exact inv.set k ⟨⟨at_ponto, certa.escritas⟩, trivial⟩
  | devolver alocacaoId =>
      dsimp only
      split
      · exact inv.set k ⟨certa.escritas, trivial⟩
      · exact inv.encerrar k
  | desfazer m =>
      dsimp only
      split
      · exact inv.set k ⟨certa.escritas, trivial⟩
      · exact inv.encerrar k
  | soltar m alocacaoId =>
      dsimp only
      split
      · exact inv
      · split
        · refine inv.seguir (inv.valid.soltar _ _ _) (fun id movimento there => ?_) (fun _ => rfl)
            fun _ mem => .inl (List.mem_of_mem_eraseIdx mem)
          exact (distribuido_soltar inv.valid _ _ _ id).trans (inv.lei id movimento there)
        · exact inv.encerrar k
  | confirmar => exact inv.confirmar mem (fits (by rw [ponto]; rfl))

theorem invariante_step (inv : s.Invariante) {acao : EmCurso.Acao} (cabe : CabeNoQueSobrou s acao) :
    (s.step acao).Invariante := by
  cases acao with
  | distribuir id partes => exact inv.iniciar id trivial
  | conciliar id m category => exact inv.iniciar id rfl
  | devolver id alocacaoId => exact inv.iniciar id trivial
  | desfazer id m => exact inv.iniciar id trivial
  | avancar k =>
      cases at_k : s.chamadas[k]? with
      | none =>
          simp only [EmCurso.step, at_k]
          exact inv
      | some c =>
          simp only [EmCurso.step, at_k]
          exact inv.avancar (List.mem_of_getElem? at_k) (cabe c at_k)
  | desistir k => exact inv.encerrar k

theorem cabe_of_dentroDoValor (inv : s.Invariante) {acao : EmCurso.Acao}
    (after : (s.step acao).db.DentroDoValor) : CabeNoQueSobrou s acao := by
  cases acao with
  | avancar k =>
      intro c at_k confirma
      have certas := (inv.certas c (List.mem_of_getElem? at_k)).escritas
      refine (dentroDoValor_ver inv.valid inv.lei certas).mp ?_
      simp only [EmCurso.step, at_k] at after
      unfold EmCurso.avancar at after
      cases ponto : c.ponto with
      | distribuir partes =>
          cases partes with
          | nil => rw [ponto] at after; exact after
          | cons parte partes => rw [ponto] at confirma; exact nomatch confirma
      | confirmar => rw [ponto] at after; exact after
      | _ => rw [ponto] at confirma; exact nomatch confirma
  | _ => trivial

end Chamadas

/-! ### Runs -/

/-- Over every interleaving of the statements of any calls on the treasuries of a church: no
movement is distributed beyond its value, in any state reached, exactly when at every commit what
was committed to a movement since the call last read its remainder fits in what the call left of
it. -/
theorem dentroDoValor_run_iff {db : Tesourarias} (valid : db.AlocacoesValidas)
    (lei : db.DentroDoValor) (acoes : List EmCurso.Acao) :
    Always EmCurso.step (fun s => s.db.DentroDoValor) ⟨db, []⟩ acoes ↔
      EachStep EmCurso.step CabeNoQueSobrou ⟨db, []⟩ acoes :=
  always_iff_eachStep_of_invariant (I := EmCurso.Invariante) (fun _ inv => inv.lei)
    (fun _ _ inv cabe => invariante_step inv cabe)
    (fun _ _ inv after => cabe_of_dentroDoValor inv after)
    { valid := valid, lei := lei, certas := by simp }

/-! ### Two treasuries and one movement -/

namespace DoisEventos

def tesouraria (id : Id) : Treasury where
  id := id
  churchId := 1
  kind := .event
  eventId := some (id + 10)
  closedAt := none

/-- One hundred came in. -/
def deposito : FinancialEntry where
  id := 5
  churchId := 1
  type := .income
  amount := 10000
  date := 0
  description := "Pix recebido"
  payerName := none
  bankAccount := none
  account := .administrative

def vazio : Tesourarias where
  churchId := 1
  integracao := none
  treasuries := [tesouraria 2, tesouraria 3]
  movimentos := [deposito]
  payments := []
  fullName := fun _ => none
  diaDoPagamento := fun _ => 0
  alocacoes := []
  links := []
  entries := []
  nextId := 100

/-- The two treasurers bring the deposit, and both read its remainder before either commits. -/
def duasLeituras : List EmCurso.Acao :=
  [.distribuir 2 [⟨5, none⟩], .distribuir 3 [⟨5, none⟩], .avancar 0, .avancar 1, .avancar 0,
    .avancar 0, .avancar 0, .avancar 0]

/-- One after the other. -/
def umaDepoisDaOutra : List EmCurso.Acao :=
  [.distribuir 2 [⟨5, some 4000⟩], .distribuir 3 [⟨5, none⟩], .avancar 0, .avancar 0, .avancar 0,
    .avancar 0, .avancar 0, .avancar 0]

end DoisEventos

theorem alocacoesValidas_vazio : DoisEventos.vazio.AlocacoesValidas where
  chaves := by simp [DoisEventos.vazio]
  nonneg := by simp [DoisEventos.vazio]

theorem dentroDoValor_vazio : DoisEventos.vazio.DentroDoValor := by
  intro id m found
  have mem := List.mem_of_find?_eq_some (Option.filter_eq_some_iff.mp found).1
  obtain rfl := List.mem_singleton.mp mem
  show (0 : Int) ≤ 10000
  decide

/-- Twice the deposit is distributed. -/
theorem not_dentroDoValor_duasLeituras :
    ¬ Always EmCurso.step (fun s => s.db.DentroDoValor) ⟨DoisEventos.vazio, []⟩
      DoisEventos.duasLeituras := by
  intro always
  have bound := always.last 5 DoisEventos.deposito (by decide +kernel)
  exact absurd bound (by decide +kernel)

theorem dentroDoValor_run_iff_umaDepoisDaOutra :
    Always EmCurso.step (fun s => s.db.DentroDoValor) ⟨DoisEventos.vazio, []⟩
      DoisEventos.umaDepoisDaOutra :=
  (dentroDoValor_run_iff alocacoesValidas_vazio dentroDoValor_vazio _).mpr (by decide +kernel)

end IccvBackend
