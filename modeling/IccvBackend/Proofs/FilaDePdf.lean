/-
Module: IccvBackend.Proofs.FilaDePdf
Purpose: The queue of the PDFs is a fair lock: one at a time, in order of arrival, and no slot lost;
  and what it tells a screen is so.
Trusted boundary: none
Main exports: Fila.FilaJusta, Fila.PassoJusto, Fila.EmDia, filaJusta_run, Fila.Diz,
  situacaoNaFila_run
-/
import IccvBackend.Pdf.Fila

namespace IccvBackend

open Lib

namespace Fila

variable {s : Fila} {i j : Nat}

/-- The phase of a call. -/
def fase (s : Fila) (i : Nat) : Option Fase := (s.pedidos[i]?).map PedidoDePdf.fase

/-- The call runs its task, or is about to. -/
def Roda (s : Fila) (i : Nat) : Prop := s.fase i = some .liberado ∨ s.fase i = some .gerando

/-! ### The laws -/

/-- What holds of the queue between two events. -/
structure FilaJusta (s : Fila) : Prop where
  um_por_vez : ∀ i j, s.Roda i → s.Roda j → i = j
  em_ordem : s.iniciados.Pairwise (· < ·)
  ninguem_pulado : ∀ j ∈ s.iniciados, ∀ i < j,
    i ∈ s.iniciados ∨ s.fase i = some .desistiu ∨ s.fase i = some .recusado
  quem_desiste : ∀ i, s.fase i = some .desistiu → i ∉ s.iniciados
  vaga_volta : (∀ i, ¬ s.Roda i) → s.vagasOcupadas = 0 ∧ s.esperando = []
  cabem : s.esperando.length ≤ maximoNaFila

/-- What one event does: a call is refused exactly when twenty others wait, starts nothing when
another runs or is about to, and gives up when it is aborted while it waits, for good. -/
structure PassoJusto (s : Fila) (acao : Acao) : Prop where
  recusa : ∀ codigo, acao = .chegar codigo →
    ((s.agir acao).fase s.pedidos.length = some .recusado ↔ s.esperando.length = maximoNaFila)
  nao_fura : ∀ codigo, acao = .chegar codigo → (∃ i, s.Roda i) →
    (s.agir acao).iniciados = s.iniciados
  desiste : ∀ i, acao = .desistir i → s.fase i = some .esperando →
    (s.agir acao).fase i = some .desistiu
  de_vez : ∀ i, s.fase i = some .desistiu → (s.agir acao).fase i = some .desistiu

/-! ### Phases -/

theorem fase_of_getElem? {p : PedidoDePdf} (call : s.pedidos[i]? = some p) :
    s.fase i = some p.fase := by
  rw [fase, call]
  rfl

theorem fase_mover {f g : Fase} (here : s.fase i = some g) (j : Nat) :
    (s.mover i f).fase j = if j = i then some f else s.fase j := by
  unfold fase mover at *
  rw [List.getElem?_modify]
  by_cases same : j = i
  · subst same
    obtain ⟨p, call, _⟩ := Option.map_eq_some_iff.mp here
    simp [call]
  · simp [same, Ne.symm same]

theorem fase_chegou {s' : Fila} {p : PedidoDePdf} (came : s'.pedidos = s.pedidos ++ [p]) (j : Nat) :
    s'.fase j = if j = s.pedidos.length then some p.fase else s.fase j := by
  unfold fase
  rw [came, List.getElem?_append]
  by_cases inside : j < s.pedidos.length
  · simp [inside, inside.ne]
  · by_cases last : j = s.pedidos.length
    · simp [last]
    · have outside : [p].length ≤ j - s.pedidos.length := by
        rw [List.length_singleton]
        omega
      rw [if_neg inside, if_neg last, List.getElem?_eq_none outside,
        List.getElem?_eq_none (not_lt.mp inside)]

/-- Where one call changed phase, the phases it neither entered nor left are as they were. -/
theorem fase_iff_of_mudou {s' : Fila} {antes depois : Option Fase}
    (phase : ∀ j, s'.fase j = if j = i then depois else s.fase j) (was : s.fase i = antes)
    {f : Fase} (entered : depois ≠ some f) (left : antes ≠ some f) (j : Nat) :
    s'.fase j = some f ↔ s.fase j = some f := by
  rw [phase j]
  by_cases same : j = i
  · rw [if_pos same, same, was]
    exact iff_of_false entered left
  · rw [if_neg same]

/-- A call that did not arrive is in no phase. -/
theorem fase_novo : s.fase s.pedidos.length = none := by
  simp [fase]

theorem lt_of_fase {f : Fase} (here : s.fase i = some f) : i < s.pedidos.length := by
  obtain ⟨p, call, _⟩ := Option.map_eq_some_iff.mp here
  exact (List.getElem?_eq_some_iff.mp call).1

/-! ### Who stays in line -/

/-- The call neither gave up nor was refused. -/
def Ficou (s : Fila) (i : Nat) : Prop :=
  s.fase i ≠ some .desistiu ∧ s.fase i ≠ some .recusado

instance : DecidablePred s.Ficou := fun _ => inferInstanceAs (Decidable (_ ∧ _))

/-- The calls in order of arrival, without those that gave up or were refused. -/
def chegadas (s : Fila) : List Nat := (List.range s.pedidos.length).filter fun i => s.Ficou i

theorem mem_chegadas : i ∈ s.chegadas ↔ i < s.pedidos.length ∧ s.Ficou i := by
  simp [chegadas]

theorem chegadas_pairwise (s : Fila) : s.chegadas.Pairwise (· < ·) :=
  List.pairwise_lt_range.filter _

theorem chegadas_nodup (s : Fila) : s.chegadas.Nodup :=
  s.chegadas_pairwise.imp fun less => less.ne

/-- Nobody leaves the line when no call gives up. -/
theorem chegadas_congr {s' : Fila} (calls : s'.pedidos.length = s.pedidos.length)
    (same : ∀ i < s.pedidos.length, s'.Ficou i ↔ s.Ficou i) : s'.chegadas = s.chegadas := by
  unfold chegadas
  rw [calls]
  refine List.filter_congr fun i mem => ?_
  simp only [same i (List.mem_range.mp mem)]

theorem chegadas_chegou {s' : Fila} {p : PedidoDePdf} (came : s'.pedidos = s.pedidos ++ [p]) :
    s'.chegadas = s.chegadas ++
      if p.fase ≠ .desistiu ∧ p.fase ≠ .recusado then [s.pedidos.length] else [] := by
  have phase := fase_chegou came
  have calls : s'.pedidos.length = s.pedidos.length + 1 := by rw [came, List.length_append]; rfl
  unfold chegadas
  rw [calls, List.range_succ, List.filter_append]
  congr 1
  · refine List.filter_congr fun i mem => ?_
    refine decide_eq_decide.mpr ?_
    rw [Ficou, Ficou, phase i, if_neg (List.mem_range.mp mem).ne]
  · have here := phase s.pedidos.length
    rw [if_pos rfl] at here
    simp only [List.filter_cons, List.filter_nil, Ficou, here, ne_eq, Option.some.injEq,
      decide_eq_true_eq]

/-! ### The invariant -/

/-- The queue with who is about to run: those that started, the one released and those that wait are
the calls that stay in line, in order of arrival. -/
structure EmDia (s : Fila) (vez : List Nat) : Prop where
  fila : s.iniciados ++ (vez ++ s.esperando) = s.chegadas
  iniciados_iff : ∀ i, i ∈ s.iniciados ↔
    s.fase i = some .gerando ∨ ∃ ok, s.fase i = some (.terminou ok)
  vez_iff : ∀ i, i ∈ vez ↔ s.fase i = some .liberado
  esperando_iff : ∀ i, i ∈ s.esperando ↔ s.fase i = some .esperando
  um_por_vez : ∀ i j, s.Roda i → s.Roda j → i = j
  vaga : s.vagasOcupadas = 1 ∧ (∃ i, s.Roda i) ∨
    s.vagasOcupadas = 0 ∧ s.esperando = [] ∧ ∀ i, ¬ s.Roda i
  cabem : s.esperando.length ≤ maximoNaFila

theorem EmDia.filaJusta {vez : List Nat} (inv : s.EmDia vez) : s.FilaJusta where
  um_por_vez := inv.um_por_vez
  em_ordem := by
    have ordered := s.chegadas_pairwise
    rw [← inv.fila, List.pairwise_append] at ordered
    exact ordered.1
  ninguem_pulado j started i before := by
    have ordered := s.chegadas_pairwise
    rw [← inv.fila, List.pairwise_append] at ordered
    have arrived : j ∈ s.chegadas := by
      rw [← inv.fila]
      exact List.mem_append_left _ started
    by_cases stays : s.Ficou i
    · left
      have inside : i ∈ s.chegadas :=
        mem_chegadas.mpr ⟨before.trans (mem_chegadas.mp arrived).1, stays⟩
      rw [← inv.fila] at inside
      rcases List.mem_append.mp inside with here | later
      · exact here
      · exact absurd before (ordered.2.2 j started i later).not_gt
    · right
      unfold Ficou at stays
      by_cases gave_up : s.fase i = some .desistiu
      · exact .inl gave_up
      · right
        by_contra accepted
        exact stays ⟨gave_up, accepted⟩
  quem_desiste i gave_up started := by
    rcases (inv.iniciados_iff i).mp started with running | ⟨ok, over_⟩
    · rw [gave_up] at running
      cases running
    · rw [gave_up] at over_
      cases over_
  vaga_volta nobody := by
    rcases inv.vaga with ⟨_, i, runs⟩ | ⟨free, empty, _⟩
    · exact absurd runs (nobody i)
    · exact ⟨free, empty⟩
  cabem := inv.cabem

theorem emDia_vazia : vazia.EmDia [] where
  fila := rfl
  iniciados_iff i := by simp [vazia, fase]
  vez_iff i := by simp [vazia, fase]
  esperando_iff i := by simp [vazia, fase]
  um_por_vez i j runs := by simp [Roda, vazia, fase] at runs
  vaga := .inr ⟨rfl, rfl, fun i runs => by simp [Roda, vazia, fase] at runs⟩
  cabem := Nat.zero_le _

section Passos

variable {vez : List Nat}

theorem EmDia.livre (inv : s.EmDia vez) (free : s.vagasOcupadas < simultaneas) :
    s.vagasOcupadas = 0 ∧ s.esperando = [] ∧ ∀ i, ¬ s.Roda i := by
  rcases inv.vaga with ⟨taken, _⟩ | idle
  · rw [taken] at free
    exact absurd free (lt_irrefl 1)
  · exact idle

/-- A call that arrives takes the free slot. -/
theorem EmDia.comecou (inv : s.EmDia vez) (free : s.vagasOcupadas < simultaneas)
    (codigo : String) :
    (({ s with
      vagasOcupadas := s.vagasOcupadas + 1
      pedidos := s.pedidos ++ [⟨codigo, .gerando⟩] } : Fila).iniciar s.pedidos.length
        codigo).EmDia [] := by
  obtain ⟨zero, empty, nobody⟩ := inv.livre free
  have vez_nil : vez = [] := List.eq_nil_iff_forall_not_mem.mpr fun i mem =>
    nobody i (.inl ((inv.vez_iff i).mp mem))
  subst vez_nil
  set s' : Fila := ({ s with
    vagasOcupadas := s.vagasOcupadas + 1
    pedidos := s.pedidos ++ [⟨codigo, .gerando⟩] } : Fila).iniciar s.pedidos.length codigo
    with hs'
  have came : s'.pedidos = s.pedidos ++ [⟨codigo, .gerando⟩] := rfl
  have phase := fase_chegou came
  have runs : ∀ i, s'.Roda i → i = s.pedidos.length := by
    intro i runs
    by_contra other
    unfold Roda at runs
    rw [phase i, if_neg other] at runs
    exact nobody i runs
  refine ⟨?_, ?_, ?_, ?_, ?_, ?_, inv.cabem⟩
  · rw [chegadas_chegou came, ← inv.fila]
    simp [hs', iniciar, empty]
  · intro i
    rw [phase i]
    by_cases last : i = s.pedidos.length
    · simp [hs', iniciar, last]
    · simp [hs', iniciar, last, inv.iniciados_iff]
  · intro i
    rw [phase i]
    by_cases last : i = s.pedidos.length
    · simp [last]
    · simpa [last] using inv.vez_iff i
  · intro i
    rw [phase i]
    by_cases last : i = s.pedidos.length
    · simp [hs', iniciar, last, empty]
    · simpa [hs', iniciar, last] using inv.esperando_iff i
  · intro i j first second
    rw [runs i first, runs j second]
  · exact .inl ⟨by simp [hs', iniciar, zero], s.pedidos.length, .inr (by rw [phase]; simp)⟩

/-- A call that arrives while another runs starts nothing: it is refused, or goes to the end. -/
theorem EmDia.chegou {s' : Fila} {codigo : String} {f : Fase} (inv : s.EmDia vez)
    (came : s'.pedidos = s.pedidos ++ [⟨codigo, f⟩]) (idle : f = .recusado ∨ f = .esperando)
    (busy : s.vagasOcupadas = 1 ∧ ∃ i, s.Roda i) (iniciados : s'.iniciados = s.iniciados)
    (vagas : s'.vagasOcupadas = s.vagasOcupadas)
    (esperando : s'.esperando = s.esperando ++ if f = .esperando then [s.pedidos.length] else [])
    (cabem : s'.esperando.length ≤ maximoNaFila) : s'.EmDia vez := by
  have new : s.fase s.pedidos.length = none := fase_novo
  have phase := fase_chegou came
  have same : ∀ g, g ≠ .recusado → g ≠ .esperando → ∀ i, s'.fase i = some g ↔
      s.fase i = some g := by
    intro g accepted started i
    refine fase_iff_of_mudou phase new ?_ (by simp) i
    rcases idle with rfl | rfl
    · exact fun equal => accepted (Option.some.inj equal).symm
    · exact fun equal => started (Option.some.inj equal).symm
  have runs : ∀ i, s'.Roda i ↔ s.Roda i := fun i =>
    or_congr (same _ (by decide) (by decide) i) (same _ (by decide) (by decide) i)
  refine ⟨?_, ?_, ?_, ?_, ?_, ?_, cabem⟩
  · rw [chegadas_chegou came, ← inv.fila, iniciados, esperando]
    rcases idle with rfl | rfl <;> simp
  · intro i
    rw [iniciados, inv.iniciados_iff i]
    exact or_congr (same _ (by decide) (by decide) i).symm
      (exists_congr fun ok => (same _ (by simp) (by simp) i).symm)
  · exact fun i => (inv.vez_iff i).trans (same _ (by decide) (by decide) i).symm
  · intro i
    rw [esperando, phase i, List.mem_append, inv.esperando_iff i]
    by_cases last : i = s.pedidos.length
    · rcases idle with rfl | rfl <;> simp [last, new]
    · rcases idle with rfl | rfl <;> simp [last]
  · exact fun i j first second => inv.um_por_vez i j ((runs i).mp first) ((runs j).mp second)
  · obtain ⟨taken, i, running⟩ := busy
    exact .inl ⟨vagas.trans taken, i, (runs i).mpr running⟩

/-- A call that arrives takes the free slot, or goes to the end of the line, or is refused. -/
theorem emDia_naFilaDePdf (inv : s.EmDia vez) (codigo : String) :
    ∃ vez', (s.naFilaDePdf codigo).EmDia vez' := by
  unfold naFilaDePdf
  simp only
  split
  · next free => exact ⟨[], inv.comecou free codigo⟩
  · next taken =>
      have busy : s.vagasOcupadas = 1 ∧ ∃ i, s.Roda i := by
        rcases inv.vaga with busy | ⟨zero, _⟩
        · exact busy
        · rw [zero] at taken
          exact absurd Nat.zero_lt_one taken
      split
      · exact ⟨vez, inv.chegou rfl (.inl rfl) busy rfl rfl (List.append_nil _).symm inv.cabem⟩
      · next room =>
          refine ⟨vez, inv.chegou rfl (.inr rfl) busy rfl rfl rfl ?_⟩
          rw [List.length_append]
          exact Nat.lt_of_not_le room

theorem EmDia.nodup (inv : s.EmDia vez) : (s.iniciados ++ (vez ++ s.esperando)).Nodup := by
  rw [inv.fila]
  exact s.chegadas_nodup

/-- When nobody else can be about to run, the one released is alone. -/
theorem EmDia.vez_eq (inv : s.EmDia vez) (released : s.fase i = some .liberado) : vez = [i] := by
  have mem : i ∈ vez := (inv.vez_iff i).mpr released
  have alone : ∀ k ∈ vez, k = i := fun k mem =>
    inv.um_por_vez k i (.inl ((inv.vez_iff k).mp mem)) (.inl released)
  have nodup : vez.Nodup := (List.nodup_append.mp (List.nodup_append.mp inv.nodup).2.1).1
  cases vez with
  | nil => cases mem
  | cons first rest =>
      obtain rfl := alone first List.mem_cons_self
      have rest_nil : rest = [] := List.eq_nil_iff_forall_not_mem.mpr fun k mem => by
        have same := alone k (List.mem_cons_of_mem _ mem)
        exact (List.nodup_cons.mp nodup).1 (same ▸ mem)
      rw [rest_nil]

/-- A released call starts its task. -/
theorem emDia_retomar (inv : s.EmDia vez) (i : Nat) : ∃ vez', (s.retomar i).EmDia vez' := by
  unfold retomar
  split
  · next codigo call =>
      have released : s.fase i = some .liberado := fase_of_getElem? call
      obtain rfl := inv.vez_eq released
      set s' : Fila := (s.mover i .gerando).iniciar i codigo with hs'
      have phase : ∀ j, s'.fase j = if j = i then some .gerando else s.fase j :=
        fase_mover released
      have other : ∀ j f, f ≠ .gerando → f ≠ .liberado →
          (s'.fase j = some f ↔ s.fase j = some f) := fun j f not_running not_released =>
        fase_iff_of_mudou phase released (by simp [Ne.symm not_running])
          (by simp [Ne.symm not_released]) j
      have runs : ∀ j, s'.Roda j ↔ s.Roda j := by
        intro j
        unfold Roda
        rw [phase j]
        by_cases same : j = i
        · simp [same, released]
        · simp [same]
      refine ⟨[], ?_, ?_, ?_, ?_, ?_, ?_, inv.cabem⟩
      · have stays : s'.chegadas = s.chegadas := by
          refine chegadas_congr (by simp [hs', iniciar, mover]) fun j _ => ?_
          exact and_congr (not_congr (other j _ (by decide) (by decide)))
            (not_congr (other j _ (by decide) (by decide)))
        rw [stays, ← inv.fila]
        simp [hs', iniciar, mover]
      · intro j
        have ended : ∀ ok, s'.fase j = some (.terminou ok) ↔ s.fase j = some (.terminou ok) :=
          fun ok => other j _ (by simp) (by simp)
        rw [exists_congr ended, phase j]
        by_cases same : j = i
        · simp [hs', iniciar, same]
        · simp [hs', iniciar, mover, same, inv.iniciados_iff]
      · intro j
        rw [phase j]
        by_cases same : j = i
        · simp [same]
        · simpa [same] using inv.vez_iff j
      · exact fun j => (inv.esperando_iff j).trans (other j _ (by decide) (by decide)).symm
      · exact fun j k first second => inv.um_por_vez j k ((runs j).mp first) ((runs k).mp second)
      · rcases inv.vaga with ⟨taken, k, running⟩ | ⟨_, _, nobody⟩
        · exact .inl ⟨taken, k, (runs k).mpr running⟩
        · exact absurd (.inl released) (nobody i)
  · exact ⟨vez, inv⟩

/-- Between the end of a task and its `finally` nobody runs, and the slot is still taken. -/
structure VagaNaMao (s : Fila) : Prop where
  fila : s.iniciados ++ s.esperando = s.chegadas
  iniciados_iff : ∀ i, i ∈ s.iniciados ↔
    s.fase i = some .gerando ∨ ∃ ok, s.fase i = some (.terminou ok)
  esperando_iff : ∀ i, i ∈ s.esperando ↔ s.fase i = some .esperando
  parada : ∀ i, ¬ s.Roda i
  ocupada : s.vagasOcupadas = 1
  cabem : s.esperando.length ≤ maximoNaFila

theorem EmDia.vagaNaMao (inv : s.EmDia vez) (running : s.fase i = some .gerando) (ok : Bool)
    (codigos : List String) :
    VagaNaMao { s.mover i (.terminou ok) with gerando := codigos } := by
  have vez_nil : vez = [] := List.eq_nil_iff_forall_not_mem.mpr fun k mem => by
    have released := (inv.vez_iff k).mp mem
    obtain rfl := inv.um_por_vez k i (.inl released) (.inr running)
    rw [running] at released
    cases released
  subst vez_nil
  set fim : Fila := { s.mover i (.terminou ok) with gerando := codigos } with hfim
  have ended : ∀ j, fim.fase j = if j = i then some (.terminou ok) else s.fase j :=
    fase_mover running
  refine ⟨?_, ?_, ?_, ?_, ?_, inv.cabem⟩
  · have stays : fim.chegadas = s.chegadas := by
      refine chegadas_congr (by simp [hfim, mover]) fun j _ => ?_
      exact and_congr (not_congr (fase_iff_of_mudou ended running (by simp) (by simp) j))
        (not_congr (fase_iff_of_mudou ended running (by simp) (by simp) j))
    exact inv.fila.trans stays.symm
  · intro j
    refine (inv.iniciados_iff j).trans ?_
    rw [ended j]
    by_cases same : j = i
    · simp [same, running]
    · simp [same]
  · exact fun j => (inv.esperando_iff j).trans
      (fase_iff_of_mudou ended running (by simp) (by simp) j).symm
  · intro j runs
    unfold Roda at runs
    rw [ended j] at runs
    by_cases same : j = i
    · simp [same] at runs
    · rw [if_neg same] at runs
      exact same (inv.um_por_vez j i runs (.inr running))
  · rcases inv.vaga with ⟨taken, _⟩ | ⟨_, _, nobody⟩
    · exact taken
    · exact absurd (.inr running) (nobody i)

/-- The slot goes to the first in line, who is about to run, or is free. -/
theorem VagaNaMao.passarAVez (held : s.VagaNaMao) : ∃ vez, s.passarAVez.EmDia vez := by
  unfold Fila.passarAVez
  split
  · next proximo resto line =>
      have waiting : s.fase proximo = some .esperando :=
        (held.esperando_iff proximo).mp (by rw [line]; exact List.mem_cons_self)
      have nodup : (proximo :: resto).Nodup := by
        have all := s.chegadas_nodup
        rw [← held.fila, line] at all
        exact (List.nodup_append.mp all).2.1
      set s' : Fila := ({ s with esperando := resto } : Fila).mover proximo .liberado with hs'
      have phase : ∀ j, s'.fase j = if j = proximo then some .liberado else s.fase j := fun j =>
        fase_mover (s := { s with esperando := resto }) waiting j
      refine ⟨[proximo], ?_, ?_, ?_, ?_, ?_, ?_, ?_⟩
      · have stays : s'.chegadas = s.chegadas := by
          refine chegadas_congr (by simp [hs', mover]) fun j _ => ?_
          exact and_congr (not_congr (fase_iff_of_mudou phase waiting (by simp) (by simp) j))
            (not_congr (fase_iff_of_mudou phase waiting (by simp) (by simp) j))
        rw [stays, ← held.fila, line]
        rfl
      · exact fun j => (held.iniciados_iff j).trans (or_congr
          (fase_iff_of_mudou phase waiting (by simp) (by simp) j).symm
          (exists_congr fun ok => (fase_iff_of_mudou phase waiting (by simp) (by simp) j).symm))
      · intro j
        rw [phase j]
        by_cases first : j = proximo
        · simp [first]
        · simpa [first] using fun released => held.parada j (.inl released)
      · intro j
        have was := held.esperando_iff j
        rw [line, List.mem_cons] at was
        rw [phase j]
        by_cases first : j = proximo
        · simpa [first, hs', mover] using (List.nodup_cons.mp nodup).1
        · simpa [first, hs', mover] using was
      · have only : ∀ j, s'.Roda j → j = proximo := by
          intro j runs
          by_contra first
          unfold Roda at runs
          rw [phase j, if_neg first] at runs
          exact held.parada j runs
        intro j k runs runs'
        rw [only j runs, only k runs']
      · exact .inl ⟨held.ocupada, proximo, .inl (by rw [phase]; simp)⟩
      · have room := held.cabem
        rw [line, List.length_cons] at room
        exact Nat.le_of_succ_le room
  · next line =>
      refine ⟨[], held.fila, held.iniciados_iff, fun j => ?_, held.esperando_iff,
        fun j _ runs _ => absurd runs (held.parada j), .inr ⟨?_, line, held.parada⟩, held.cabem⟩
      · exact iff_of_false List.not_mem_nil fun released => held.parada j (.inl released)
      · rw [held.ocupada]

/-- A task that ends gives the slot to the next in line, or frees it. -/
theorem emDia_terminar (inv : s.EmDia vez) (i : Nat) (ok : Bool) :
    ∃ vez', (s.terminar i ok).EmDia vez' := by
  unfold terminar
  split
  · next codigo call => exact (inv.vagaNaMao (fase_of_getElem? call) ok _).passarAVez
  · exact ⟨vez, inv⟩

/-- Giving up takes the call out of the line. -/
theorem emDia_desistir (inv : s.EmDia vez) (i : Nat) : ∃ vez', (s.desistir i).EmDia vez' := by
  unfold desistir
  split
  · next mem =>
      have waiting := (inv.esperando_iff i).mp mem
      set s' : Fila := ({ s with esperando := s.esperando.erase i } : Fila).mover i .desistiu
        with hs'
      have phase : ∀ j, s'.fase j = if j = i then some .desistiu else s.fase j := fun j =>
        fase_mover (s := { s with esperando := s.esperando.erase i }) waiting j
      have other : ∀ j f, f ≠ .desistiu → f ≠ .esperando →
          (s'.fase j = some f ↔ s.fase j = some f) := fun j f not_left not_waiting =>
        fase_iff_of_mudou phase waiting (by simp [Ne.symm not_left])
          (by simp [Ne.symm not_waiting]) j
      have runs : ∀ j, s'.Roda j ↔ s.Roda j := fun j =>
        or_congr (other j _ (by decide) (by decide)) (other j _ (by decide) (by decide))
      have nodup := List.nodup_append.mp inv.nodup
      have line_nodup : s.esperando.Nodup := (List.nodup_append.mp nodup.2.1).2.1
      refine ⟨vez, ?_, ?_, ?_, ?_, ?_, ?_, ?_⟩
      · -- the line and the calls that stay in it lose the same one
        have left : s'.chegadas = s.chegadas.filter fun j => j ≠ i := by
          unfold chegadas
          rw [List.filter_filter, show s'.pedidos.length = s.pedidos.length by simp [hs', mover]]
          refine List.filter_congr fun j _ => ?_
          rw [← Bool.decide_and]
          refine decide_eq_decide.mpr ?_
          unfold Ficou
          rw [phase j]
          by_cases same : j = i
          · simp [same]
          · simp [same]
        have started : i ∉ s.iniciados := (inv.iniciados_iff i).not.mpr (by simp [waiting])
        have released : i ∉ vez := (inv.vez_iff i).not.mpr (by simp [waiting])
        rw [left, ← inv.fila, List.filter_append, List.filter_append]
        have kept : ∀ line : List Nat, i ∉ line → line.filter (fun j => j ≠ i) = line :=
          fun line absent => List.filter_eq_self.mpr fun j here =>
            decide_eq_true fun same : j = i => absent (same ▸ here)
        rw [kept _ started, kept _ released]
        have line : s'.esperando = s.esperando.filter fun j => j ≠ i := by
          rw [show s'.esperando = s.esperando.erase i from rfl, line_nodup.erase_eq_filter]
          exact List.filter_congr fun j _ => by by_cases same : j = i <;> simp [same]
        rw [line]
        rfl
      · intro j
        refine (inv.iniciados_iff j).trans ?_
        rw [other j _ (by decide) (by decide)]
        exact or_congr Iff.rfl (exists_congr fun ok => (other j _ (by simp) (by simp)).symm)
      · exact fun j => (inv.vez_iff j).trans (other j _ (by decide) (by decide)).symm
      · intro j
        rw [phase j, show s'.esperando = s.esperando.erase i from rfl, line_nodup.mem_erase_iff]
        by_cases same : j = i
        · simp [same]
        · simp [same, inv.esperando_iff]
      · exact fun j k first second => inv.um_por_vez j k ((runs j).mp first) ((runs k).mp second)
      · rcases inv.vaga with ⟨taken, k, running⟩ | ⟨_, empty, _⟩
        · exact .inl ⟨taken, k, (runs k).mpr running⟩
        · rw [empty] at mem
          cases mem
      · exact (List.length_erase_le).trans inv.cabem
  · exact ⟨vez, inv⟩

theorem emDia_agir (inv : s.EmDia vez) (acao : Acao) : ∃ vez', (s.agir acao).EmDia vez' := by
  cases acao with
  | chegar codigo => exact emDia_naFilaDePdf inv codigo
  | retomar i => exact emDia_retomar inv i
  | terminar i ok => exact emDia_terminar inv i ok
  | desistir i => exact emDia_desistir inv i

/-! ### One event -/

theorem fase_naFilaDePdf (codigo : String) :
    ∃ p : PedidoDePdf, (s.naFilaDePdf codigo).pedidos = s.pedidos ++ [p] ∧
      (p.fase = .recusado ↔
        ¬ s.vagasOcupadas < simultaneas ∧ maximoNaFila ≤ s.esperando.length) := by
  unfold naFilaDePdf
  simp only
  split
  · next free => exact ⟨⟨codigo, .gerando⟩, rfl, by simp [free]⟩
  · next taken =>
      split
      · next full => exact ⟨⟨codigo, .recusado⟩, rfl, by simp [taken, full]⟩
      · next room => exact ⟨⟨codigo, .esperando⟩, rfl, by simp [room]⟩

/-- Moving a call leaves the others where they are. -/
theorem fase_mover_of_ne {f : Fase} (other : j ≠ i) : (s.mover i f).fase j = s.fase j := by
  simp [fase, mover, Ne.symm other]

theorem EmDia.passoJusto (inv : s.EmDia vez) (acao : Acao) : s.PassoJusto acao where
  recusa := by
    rintro codigo rfl
    obtain ⟨p, came, refused⟩ := s.fase_naFilaDePdf codigo
    show (s.naFilaDePdf codigo).fase s.pedidos.length = _ ↔ _
    rw [fase_chegou came, if_pos rfl, Option.some.injEq, refused]
    constructor
    · exact fun full => le_antisymm inv.cabem full.2
    · intro full
      refine ⟨fun free => ?_, full.ge⟩
      rw [(inv.livre free).2.1] at full
      exact absurd full (by decide)
  nao_fura := by
    rintro codigo rfl ⟨i, runs⟩
    show (s.naFilaDePdf codigo).iniciados = _
    unfold naFilaDePdf
    simp only
    split
    · next free => exact absurd runs ((inv.livre free).2.2 i)
    · split <;> rfl
  desiste := by
    rintro i rfl waiting
    show (s.desistir i).fase i = _
    have mem := (inv.esperando_iff i).mpr waiting
    unfold desistir
    rw [if_pos mem, fase_mover (s := { s with esperando := s.esperando.erase i }) waiting,
      if_pos rfl]
  de_vez i gave_up := by
    cases acao with
    | chegar codigo =>
        obtain ⟨p, came, _⟩ := s.fase_naFilaDePdf codigo
        show (s.naFilaDePdf codigo).fase i = _
        rw [fase_chegou came, if_neg (lt_of_fase gave_up).ne]
        exact gave_up
    | retomar k =>
        show (s.retomar k).fase i = _
        unfold retomar
        split
        · next codigo call =>
            have other : i ≠ k := by
              rintro rfl
              rw [fase_of_getElem? call] at gave_up
              cases gave_up
            exact (fase_mover_of_ne other).trans gave_up
        · exact gave_up
    | terminar k ok =>
        show (s.terminar k ok).fase i = _
        unfold terminar
        split
        · next codigo call =>
            have other : i ≠ k := by
              rintro rfl
              rw [fase_of_getElem? call] at gave_up
              cases gave_up
            have ended : (s.mover k (.terminou ok)).fase i = some .desistiu :=
              (fase_mover_of_ne other).trans gave_up
            unfold passarAVez
            split
            · next proximo resto line =>
                replace line : s.esperando = proximo :: resto := line
                have waiting := (inv.esperando_iff proximo).mp
                  (by rw [line]; exact List.mem_cons_self)
                have apart : i ≠ proximo := by
                  rintro rfl
                  rw [gave_up] at waiting
                  cases waiting
                exact (fase_mover_of_ne apart).trans ended
            · exact ended
        · exact gave_up
    | desistir k =>
        show (s.desistir k).fase i = _
        unfold desistir
        split
        · next mem =>
            have other : i ≠ k := by
              rintro rfl
              rw [(inv.esperando_iff i).mp mem] at gave_up
              cases gave_up
            exact (fase_mover_of_ne other).trans gave_up
        · exact gave_up

end Passos

/-! ### Runs -/

theorem emDia_run (acoes : List Acao) : Always agir (fun s => ∃ vez, s.EmDia vez) vazia acoes :=
  always_of_step (fun _ acao inv => inv.elim fun _ inv => emDia_agir inv acao)
    ⟨[], emDia_vazia⟩ acoes

/-- Over every run of arrivals, tasks that end and signals: one task at a time, in order of arrival
but for who gave up or was refused; who gives up never runs; the slot comes back; and a call is
refused exactly when twenty others wait. -/
theorem filaJusta_run (acoes : List Acao) :
    Always agir FilaJusta vazia acoes ∧ EachStep agir PassoJusto vazia acoes := by
  have kept := emDia_run acoes
  exact ⟨kept.mono fun s inv => inv.elim fun _ inv => inv.filaJusta,
    kept.eachStep fun s acao inv => inv.elim fun _ inv => inv.passoJusto acao⟩

/-! ### What the screen is told -/

/-- The call of a code, in a phase. -/
def De (s : Fila) (i : Nat) (codigo : String) (fase : Fase) : Prop :=
  s.pedidos[i]? = some ⟨codigo, fase⟩

/-- What a screen may be told of a code: how many calls wait before the first that waits for it;
that nobody waits for it and it is being generated; or neither. -/
def Diz (s : Fila) (codigo : String) : SituacaoNaFila → Prop
  | .fila posicao => ∃ antes i depois, s.esperando = antes ++ i :: depois ∧
      posicao = antes.length + 1 ∧ s.De i codigo .esperando ∧
        ∀ j ∈ antes, ¬ s.De j codigo .esperando
  | .gerando => (∃ i, s.De i codigo .gerando) ∧ ∀ i, ¬ s.De i codigo .esperando
  | .desconhecido => ∀ i, ¬ s.De i codigo .esperando ∧ ¬ s.De i codigo .gerando

/-- The set holds the codes of the calls whose task runs. -/
def Gerando (s : Fila) : Prop := ∀ codigo, codigo ∈ s.gerando ↔ ∃ i, s.De i codigo .gerando

section Situacao

variable {codigo : String} {vez : List Nat}

theorem fase_of_de {f : Fase} (call : s.De i codigo f) : s.fase i = some f :=
  fase_of_getElem? call

theorem exists_de {f : Fase} (here : s.fase i = some f) : ∃ codigo, s.De i codigo f := by
  obtain ⟨⟨codigo, _⟩, call, rfl⟩ := Option.map_eq_some_iff.mp here
  exact ⟨codigo, call⟩

theorem de_mover {f g g' : Fase} {c c' : String} (here : s.De i c g) :
    (s.mover i f).De j c' g' ↔ if j = i then c' = c ∧ g' = f else s.De j c' g' := by
  unfold De mover at *
  rw [List.getElem?_modify]
  by_cases same : j = i
  · subst same
    simp [here, eq_comm]
  · simp [same, Ne.symm same]

theorem de_chegou {s' : Fila} {p : PedidoDePdf} (came : s'.pedidos = s.pedidos ++ [p]) {f : Fase} :
    (∃ i, s'.De i codigo f) ↔ (∃ i, s.De i codigo f) ∨ p = ⟨codigo, f⟩ := by
  have mem_iff (t : Fila) : (∃ i, t.De i codigo f) ↔ (⟨codigo, f⟩ : PedidoDePdf) ∈ t.pedidos :=
    List.mem_iff_getElem?.symm
  rw [mem_iff, mem_iff, came, List.mem_append, List.mem_singleton, eq_comm (b := p)]

/-- A call that enters or leaves no task leaves the set true. -/
theorem Gerando.mover (all : s.Gerando) {f g : Fase} {c : String} (here : s.De i c g)
    (was : g ≠ .gerando) (is : f ≠ .gerando) : (s.mover i f).Gerando := by
  intro codigo
  refine (all codigo).trans (exists_congr fun j => ?_)
  rw [de_mover here]
  split
  · next same =>
      rw [same]
      refine iff_of_false (fun runs => was ?_) fun both => is both.2.symm
      exact Option.some.inj ((fase_of_de here).symm.trans (fase_of_de runs))
  · exact Iff.rfl

theorem gerando_naFilaDePdf (all : s.Gerando) (codigo : String) :
    (s.naFilaDePdf codigo).Gerando := by
  intro c
  unfold naFilaDePdf
  dsimp only
  split
  · rw [de_chegou (s := s) rfl, ← all c]
    simp [iniciar, or_comm, eq_comm]
  · split
    · rw [de_chegou (s := s) rfl, ← all c]
      simp
    · rw [de_chegou (s := s) rfl, ← all c]
      simp

theorem gerando_retomar (all : s.Gerando) (i : Nat) : (s.retomar i).Gerando := by
  unfold retomar
  split
  · next codigo call =>
      intro c
      have opened (j : Nat) : ((s.mover i .gerando).iniciar i codigo).De j c .gerando ↔
          if j = i then c = codigo ∧ Fase.gerando = .gerando else s.De j c .gerando :=
        de_mover (s := s) call
      simp only [opened]
      show c ∈ s.gerando.insert codigo ↔ _
      rw [List.mem_insert_iff, all c]
      constructor
      · rintro (rfl | ⟨j, runs⟩)
        · exact ⟨i, by simp⟩
        · refine ⟨j, ?_⟩
          rw [if_neg]
          · exact runs
          · rintro rfl
            have phase := (fase_of_de runs).symm.trans (fase_of_getElem? call)
            cases phase
      · rintro ⟨j, runs⟩
        split at runs
        · exact .inl runs.1
        · exact .inr ⟨j, runs⟩
  · exact all

/-- With the task that runs over, no other is in the set. -/
theorem gerando_terminar (inv : s.EmDia vez) (all : s.Gerando) (i : Nat) (ok : Bool) :
    (s.terminar i ok).Gerando := by
  unfold terminar
  split
  · next codigo call =>
      have ended : Gerando { s.mover i (.terminou ok) with
          gerando := s.gerando.filter fun c => c ≠ codigo } := by
        intro c
        have moved (j : Nat) : De { s.mover i (.terminou ok) with
            gerando := s.gerando.filter fun c => c ≠ codigo } j c .gerando ↔
            if j = i then c = codigo ∧ Fase.gerando = .terminou ok else s.De j c .gerando :=
          de_mover (s := s) call
        simp only [moved, List.mem_filter, all c, decide_eq_true_eq]
        have alone (j : Nat) (runs : s.De j c .gerando) : j = i :=
          inv.um_por_vez j i (.inr (fase_of_de runs)) (.inr (fase_of_getElem? call))
        refine iff_of_false ?_ ?_
        · rintro ⟨⟨j, runs⟩, other⟩
          obtain rfl := alone j runs
          exact other (congrArg PedidoDePdf.codigo (Option.some.inj (runs.symm.trans call)))
        · rintro ⟨j, runs⟩
          split at runs
          · cases runs.2
          · next other => exact other (alone j runs)
      unfold passarAVez
      split
      · next proximo resto line =>
          replace line : s.esperando = proximo :: resto := line
          have waiting := (inv.esperando_iff proximo).mp (by rw [line]; exact List.mem_cons_self)
          obtain ⟨c, call'⟩ := exists_de waiting
          have other : proximo ≠ i := by
            rintro rfl
            rw [fase_of_getElem? call] at waiting
            cases waiting
          have still : De { s.mover i (.terminou ok) with
              gerando := s.gerando.filter fun c => c ≠ codigo, esperando := resto } proximo c
                .esperando := by
            refine (de_mover (s := s) call).mpr ?_
            rwa [if_neg other]
          exact Gerando.mover (s := { s.mover i (.terminou ok) with
            gerando := s.gerando.filter fun c => c ≠ codigo, esperando := resto }) ended still
              (by simp) (by simp)
      · exact ended
  · exact all

theorem gerando_desistir (inv : s.EmDia vez) (all : s.Gerando) (i : Nat) :
    (s.desistir i).Gerando := by
  unfold desistir
  split
  · next mem =>
      obtain ⟨c, call⟩ := exists_de ((inv.esperando_iff i).mp mem)
      exact Gerando.mover (s := { s with esperando := s.esperando.erase i }) all call
        (by simp) (by simp)
  · exact all

theorem gerando_agir (inv : s.EmDia vez) (all : s.Gerando) (acao : Acao) :
    (s.agir acao).Gerando := by
  cases acao with
  | chegar codigo => exact gerando_naFilaDePdf all codigo
  | retomar i => exact gerando_retomar all i
  | terminar i ok => exact gerando_terminar inv all i ok
  | desistir i => exact gerando_desistir inv all i

theorem EmDia.diz (inv : s.EmDia vez) (all : s.Gerando) (codigo : String) :
    s.Diz codigo (s.situacaoNaFila codigo) := by
  have asked {i : Nat} (mem : i ∈ s.esperando) :
      (s.pedidos[i]?).any (fun p => p.codigo = codigo) = true ↔ s.De i codigo .esperando := by
    obtain ⟨c, call⟩ := exists_de ((inv.esperando_iff i).mp mem)
    unfold De at *
    simp [call]
  unfold situacaoNaFila
  cases found : s.esperando.findIdx? fun i => (s.pedidos[i]?).any fun p => p.codigo = codigo with
  | some indice =>
      obtain ⟨inside, here, before⟩ := List.findIdx?_eq_some_iff_getElem.mp found
      refine ⟨s.esperando.take indice, s.esperando[indice], s.esperando.drop (indice + 1), ?_, ?_,
        (asked (List.getElem_mem inside)).mp here, ?_⟩
      · rw [List.getElem_cons_drop, List.take_append_drop]
      · rw [List.length_take, min_eq_left inside.le]
      · intro j mem waits
        obtain ⟨k, less, rfl⟩ := List.mem_take_iff_getElem.mp mem
        have early : k < indice := lt_of_lt_of_le less (min_le_left _ _)
        exact before k early ((asked (List.getElem_mem (early.trans inside))).mpr waits)
  | none =>
      have nobody : ∀ i, ¬ s.De i codigo .esperando := by
        intro i waits
        have mem := (inv.esperando_iff i).mpr (fase_of_de waits)
        have absent := List.findIdx?_eq_none_iff.mp found i mem
        rw [(asked mem).mpr waits] at absent
        cases absent
      dsimp only
      split
      · next running => exact ⟨(all codigo).mp running, nobody⟩
      · next idle =>
          exact fun i => ⟨nobody i, fun runs => idle ((all codigo).mpr ⟨i, runs⟩)⟩

/-- In every run, what `situacaoNaFila` answers is so. -/
theorem situacaoNaFila_run (acoes : List Acao) :
    Always agir (fun s => ∀ codigo, s.Diz codigo (s.situacaoNaFila codigo)) vazia acoes := by
  have kept : Always agir (fun s => (∃ vez, s.EmDia vez) ∧ s.Gerando) vazia acoes := by
    refine always_of_step ?_ ⟨⟨[], emDia_vazia⟩, ?_⟩ acoes
    · rintro s acao ⟨⟨vez, inv⟩, all⟩
      exact ⟨emDia_agir inv acao, gerando_agir inv all acao⟩
    · intro codigo
      simp [vazia, De]
  refine kept.mono ?_
  rintro s ⟨⟨vez, inv⟩, all⟩
  exact inv.diz all

end Situacao

end Fila

end IccvBackend
