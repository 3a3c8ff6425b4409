/-
Module: IccvBackend.Proofs.NewsCalendar
Purpose: The calendar of scheduled news lists what the rounds of the clock will consume.
Trusted boundary: none
Main exports: Noticiario.Armazenado, Noticiario.Pontual, Noticiario.emSequencia,
  Noticiario.Acompanha, Noticiario.CalendarioCerto, Noticiario.calendario_run
-/
import IccvBackend.Proofs.ScheduledDispatch

namespace IccvBackend

open Lib

open Agendamento

/-! ### Occurrences a day apart -/

/-- The next run of a schedule is at least a day after another of its runs. -/
theorem diaMs_le_of_lt {a : Agendamento} {t u : Int} (occurs : Ocorre a t) (occurs' : Ocorre a u)
    (later : t < u) : t + diaMs ≤ u := by
  cases kind : a.kind with
  | once =>
      simp only [Ocorre, kind] at occurs occurs'
      obtain rfl := Option.some.inj (occurs.symm.trans occurs')
      exact absurd later (Int.lt_irrefl t)
  | weekly =>
      simp only [Ocorre, kind] at occurs occurs'
      obtain ⟨time, is, n, _, rfl⟩ := occurs
      obtain ⟨time', is', m, _, rfl⟩ := occurs'
      obtain rfl := Option.some.inj (is.symm.trans is')
      unfold diaMs fusoMs at *
      omega

namespace Noticiario

/-! ### The loop of the calendar -/

section Percorrer

variable {a : Agendamento} {de ate : Int}

/-- The occurrences kept so far fill a day each before the one that comes. -/
def Cabem (de quando : Int) (ocorrencias : List Int) : Prop :=
  ocorrencias = [] ∨ de + ocorrencias.length * diaMs ≤ quando

/-- What one turn keeps: the run it is at, when the period has begun. -/
def mantida (de quando : Int) : List Int := if de ≤ quando then [quando] else []

theorem mantida_append {quando : Int} {ocorrencias : List Int} :
    (if de ≤ quando then ocorrencias ++ [quando] else ocorrencias) =
      ocorrencias ++ mantida de quando := by
  unfold mantida
  split
  · rfl
  · rw [List.append_nil]

theorem mem_mantida {quando t : Int} : t ∈ mantida de quando ↔ t = quando ∧ de ≤ quando := by
  unfold mantida
  split
  · next begun => simp [begun]
  · next early => simp [early]

theorem Cabem.depois {quando proxima : Int} {ocorrencias : List Int}
    (cabem : Cabem de quando ocorrencias) (dia : quando + diaMs ≤ proxima) :
    Cabem de proxima (ocorrencias ++ mantida de quando) := by
  unfold Cabem mantida diaMs at *
  split
  · refine .inr ?_
    rw [List.length_append, List.length_singleton]
    rcases cabem with rfl | full
    · simp only [List.length_nil]
      omega
    · omega
  · rw [List.append_nil]
    exact cabem.imp id fun full => by omega

theorem length_mantida {quando : Int} {ocorrencias : List Int}
    (periodo : ate - de ≤ periodoMaximoDoCalendarioMs) (inside : quando < ate)
    (cabem : Cabem de quando ocorrencias) :
    ocorrencias.length < 62 ∧ (ocorrencias ++ mantida de quando).length ≤ 62 := by
  have room : ocorrencias.length < 62 := by
    rcases cabem with rfl | full
    · decide
    · unfold periodoMaximoDoCalendarioMs diaMs at *
      omega
  refine ⟨room, ?_⟩
  rw [List.length_append]
  have one : (mantida de quando).length ≤ 1 := by
    unfold mantida
    split
    · exact Nat.le_refl 1
    · exact Nat.zero_le 1
  omega

/-- The loop appends the runs of the period in order; 62 days have room for 62 of them, so the limit
is never met. -/
theorem percorrer_spec (periodo : ate - de ≤ periodoMaximoDoCalendarioMs) (quando : Int)
    (ocorrencias : List Int) (occurs : Ocorre a quando) (clock : 0 ≤ quando + fusoMs)
    (cabem : Cabem de quando ocorrencias) (poucas : ocorrencias.length ≤ 62) :
    ∃ lista, percorrer a de ate quando ocorrencias = ocorrencias ++ lista ∧
      (ocorrencias ++ lista).length ≤ 62 ∧ lista.Pairwise (· < ·) ∧
      ∀ t, t ∈ lista ↔ Ocorre a t ∧ quando ≤ t ∧ de ≤ t ∧ t < ate := by
  rw [percorrer]
  by_cases inside : quando < ate
  · obtain ⟨room, few⟩ := length_mantida periodo inside cabem
    have go : quando < ate ∧ ocorrencias.length < 100 := ⟨inside, by omega⟩
    have first := proximaExecucao_primeira a clock
    rw [if_pos go]
    dsimp only
    rw [mantida_append]
    split
    · next proxima found =>
        rw [found] at first
        obtain ⟨occurs', later, least⟩ := first
        obtain ⟨lista, whole, fits, sorted, exact_⟩ := percorrer_spec periodo proxima
          (ocorrencias ++ mantida de quando) occurs' (by omega)
          (cabem.depois (diaMs_le_of_lt occurs occurs' later)) few
        refine ⟨mantida de quando ++ lista, by rw [whole, List.append_assoc],
          by rwa [← List.append_assoc], ?_, fun t => ?_⟩
        · refine List.pairwise_append.mpr ⟨?_, sorted, fun t here u there => ?_⟩
          · unfold mantida
            split
            · exact List.pairwise_singleton _ _
            · exact List.Pairwise.nil
          · obtain ⟨rfl, _⟩ := mem_mantida.mp here
            exact later.trans_le ((exact_ u).mp there).2.1
        · rw [List.mem_append, mem_mantida, exact_]
          constructor
          · rintro (⟨rfl, begun⟩ | ⟨runs, from', begun, before⟩)
            · exact ⟨occurs, Int.le_refl _, begun, inside⟩
            · exact ⟨runs, by omega, begun, before⟩
          · rintro ⟨runs, from', begun, before⟩
            rcases Int.lt_or_eq_of_le from' with after | rfl
            · exact .inr ⟨runs, least t runs after, begun, before⟩
            · exact .inl ⟨rfl, begun⟩
    · next found =>
        rw [found] at first
        refine ⟨mantida de quando, rfl, few, ?_, fun t => ?_⟩
        · unfold mantida
          split
          · exact List.pairwise_singleton _ _
          · exact List.Pairwise.nil
        · rw [mem_mantida]
          constructor
          · rintro ⟨rfl, begun⟩
            exact ⟨occurs, Int.le_refl _, begun, inside⟩
          · rintro ⟨runs, from', begun, _⟩
            obtain rfl : t = quando := Int.le_antisymm (first t runs) from'
            exact ⟨rfl, begun⟩
  · have stop : ¬ (quando < ate ∧ ocorrencias.length < 100) := fun both => inside both.1
    rw [if_neg stop]
    refine ⟨[], (List.append_nil _).symm, by rwa [List.append_nil], List.Pairwise.nil, fun t => ?_⟩
    refine ⟨fun mem => absurd mem List.not_mem_nil, ?_⟩
    rintro ⟨_, from', _, before⟩
    omega
termination_by (ate - quando).toNat
decreasing_by omega

end Percorrer

/-! ### Stored schedules -/

/-- A schedule as `validarAgendamento` stored it, with its first run or the one a round has set
since. -/
def Armazenado (row : NewsSchedule) : Prop :=
  ∃ entrada agora primeira, 0 ≤ agora + fusoMs ∧
    validarAgendamento entrada agora = .ok (row.toAgendamento, primeira) ∧
    (row.nextRunAt = primeira ∨
      ∃ rodada, agora ≤ rodada ∧ row.nextRunAt = proximaExecucao row.toAgendamento rodada)

/-- The next run on record is a run of the schedule. -/
theorem Armazenado.ocorre {row : NewsSchedule} (armazenado : Armazenado row) {q : Int}
    (next : row.nextRunAt = some q) : Ocorre row.toAgendamento q ∧ 0 ≤ q + fusoMs := by
  obtain ⟨entrada, agora, primeira, clock, ok, stored⟩ := armazenado
  have after : ∀ t, agora ≤ t → proximaExecucao row.toAgendamento t = some q →
      Ocorre row.toAgendamento q ∧ 0 ≤ q + fusoMs := by
    intro t le found
    have first := proximaExecucao_primeira row.toAgendamento (t := t) (by omega)
    rw [found] at first
    exact ⟨first.1, by have later := first.2.1; omega⟩
  rcases stored with initial | ⟨rodada, le, moved⟩
  · unfold validarAgendamento at ok
    split at ok
    · simp only [bind_eq_ok_iff, orFail_eq_ok_iff, failIf_eq_ok_iff, pure_eq_ok_iff] at ok
      obtain ⟨runAt, _, _, future, is⟩ := ok
      obtain ⟨content, first⟩ := Prod.mk.inj is
      obtain rfl : runAt = q := Option.some.inj (first.trans (initial.symm.trans next))
      refine ⟨?_, by omega⟩
      rw [← content]
      rfl
    · simp only [bind_eq_ok_iff, orFail_eq_ok_iff, failIf_eq_ok_iff, pure_eq_ok_iff] at ok
      obtain ⟨_, _, time, _, is⟩ := ok
      obtain ⟨content, first⟩ := Prod.mk.inj is
      refine after agora (Int.le_refl _) ?_
      rw [← content, first, ← initial, next]
  · exact after rodada le (moved.symm.trans next)

theorem ocorrencias_spec {row : NewsSchedule} {de ate : Int}
    (periodo : ate - de ≤ periodoMaximoDoCalendarioMs) (armazenado : Armazenado row) :
    (ocorrencias row de ate).length ≤ 62 ∧ (ocorrencias row de ate).Pairwise (· < ·) ∧
      ∀ t, t ∈ ocorrencias row de ate ↔
        ∃ q, row.nextRunAt = some q ∧ Ocorre row.toAgendamento t ∧ q ≤ t ∧ de ≤ t ∧ t < ate := by
  unfold ocorrencias
  cases next : row.nextRunAt with
  | none => simp
  | some q =>
      obtain ⟨occurs, clock⟩ := armazenado.ocorre next
      obtain ⟨lista, whole, fits, sorted, exact_⟩ :=
        percorrer_spec periodo q [] occurs clock (.inl rfl) (Nat.zero_le _)
      dsimp only
      rw [whole]
      rw [List.nil_append] at fits ⊢
      refine ⟨fits, sorted, fun t => ?_⟩
      rw [exact_]
      constructor
      · exact fun holds => ⟨q, rfl, holds⟩
      · rintro ⟨_, is, holds⟩
        rwa [← Option.some.inj is] at holds

/-! ### What the rounds have consumed -/

variable {s s' inicio : Noticiario} {h : List Consumo} {ate : Int}

/-- The round falls less than a minute after the occurrence it consumes, if that one is before the
end of the period. -/
def Pontual (ate : Int) (sh : Noticiario × List Consumo) (acao : Acao) : Prop :=
  ∀ c, consumo? sh.1 acao = some c → c.vez.marcado < ate → c.agora < c.vez.marcado + 60 * 1000

/-- The occurrence is among those consumed. -/
def Consumida (h : List Consumo) (scheduleId : Id) (t : Int) : Prop :=
  ∃ c ∈ h, c.vez.agendamento.id = scheduleId ∧ c.vez.marcado = t

/-- How a schedule stands after the rounds so far: every run of the period before its next one was
consumed, and only runs were. -/
structure Andamento (ate : Int) (row : NewsSchedule) (s : Noticiario)
    (h : List Consumo) : Prop where
  consumidas : ∀ t, Consumida h row.id t →
    ∃ q, row.nextRunAt = some q ∧ Ocorre row.toAgendamento t ∧ q ≤ t
  adiante : ∃ agora ∈ s.agendamentos, agora.id = row.id ∧
    agora.toAgendamento = row.toAgendamento ∧
    (∀ u, agora.nextRunAt = some u →
      ∃ q, row.nextRunAt = some q ∧ Ocorre row.toAgendamento u ∧ q ≤ u) ∧
    ∀ q, row.nextRunAt = some q → ∀ t, Ocorre row.toAgendamento t → q ≤ t → t < ate →
      (∀ u, agora.nextRunAt = some u → t < u) → Consumida h row.id t

theorem andamento_inicio {row : NewsSchedule} (mem : row ∈ inicio.agendamentos)
    (armazenado : Armazenado row) : Andamento ate row inicio [] where
  consumidas := by
    rintro t ⟨c, absent, _⟩
    exact absurd absent List.not_mem_nil
  adiante := by
    refine ⟨row, mem, rfl, rfl, fun u next => ⟨u, next, (armazenado.ocorre next).1, Int.le_refl _⟩,
      fun q next t _ from' _ before => ?_⟩
    exact absurd (before q next) (Int.not_lt.mpr from')

theorem Andamento.parado {row : NewsSchedule} (andamento : Andamento ate row s h)
    (same : s'.agendamentos = s.agendamentos) : Andamento ate row s' h :=
  ⟨andamento.consumidas, same ▸ andamento.adiante⟩

/-- The exchange of a punctual round consumes the next run and leaves none behind. -/
theorem Andamento.consumiu {row : NewsSchedule} (andamento : Andamento ate row s h)
    (ids : (s.agendamentos.map NewsSchedule.id).Nodup) {i : Nat} {agora : Int} {vez : Vencido}
    (changed : s.trocou vez = true) (lido : Lido s agora vez) (clock : 0 ≤ agora + fusoMs)
    (pontual : vez.marcado < ate → agora < vez.marcado + 60 * 1000)
    (is : s'.agendamentos = s.trocar agora vez) :
    Andamento ate row s' (h ++ [⟨i, vez, agora⟩]) := by
  have old : ∀ {t}, Consumida h row.id t → Consumida (h ++ [⟨i, vez, agora⟩]) row.id t := by
    rintro t ⟨c, mem, rest⟩
    exact ⟨c, List.mem_append_left _ mem, rest⟩
  obtain ⟨atual, mem, id, content, next, done⟩ := andamento.adiante
  obtain ⟨alvo, alvo_mem, marked⟩ := trocou_iff.mp changed
  by_cases own : row.id = vez.agendamento.id
  · obtain rfl : alvo = atual := List.inj_on_of_nodup_map ids alvo_mem mem
      (marked.1.trans (own.symm.trans id.symm))
    obtain ⟨q, first, occurs, from'⟩ := next vez.marcado marked.2
    have same : vez.agendamento.toAgendamento = row.toAgendamento := by
      rw [← lido.2 alvo mem marked.1, content]
    have primeira := proximaExecucao_primeira row.toAgendamento clock
    have due := lido.1
    refine ⟨?_, avancado agora vez alvo, ?_, id, content, fun u later => ?_,
      fun q' first' t runs begun inside before => ?_⟩
    · rintro t ⟨c, mem', key, mark⟩
      rcases List.mem_append.mp mem' with before | new
      · exact andamento.consumidas t ⟨c, before, key, mark⟩
      · obtain rfl := List.mem_singleton.mp new
        obtain rfl : vez.marcado = t := mark
        exact ⟨q, first, occurs, from'⟩
    · rw [is]
      exact List.mem_map.mpr ⟨alvo, mem, if_pos marked⟩
    · have found : proximaExecucao row.toAgendamento agora = some u := same ▸ later
      rw [found] at primeira
      obtain ⟨runs, after, _⟩ := primeira
      exact ⟨q, first, runs, by omega⟩
    · rcases Int.lt_trichotomy t vez.marcado with earlier | here | later
      · refine old (done q' first' t runs begun inside fun u next' => ?_)
        rw [← Option.some.inj (marked.2.symm.trans next')]
        exact earlier
      · exact ⟨_, List.mem_append_right _ (List.mem_singleton.mpr rfl), own.symm, here.symm⟩
      · -- a run after this one is a day later, so after the round, and not before the next one
        have day := diaMs_le_of_lt occurs runs later
        have after : agora < t := by
          have close := pontual (later.trans inside)
          unfold diaMs at day
          omega
        cases found : proximaExecucao row.toAgendamento agora with
        | none =>
            rw [found] at primeira
            exact absurd (primeira t runs) (Int.not_le.mpr after)
        | some u =>
            rw [found] at primeira
            have least := primeira.2.2 t runs after
            have next' : (avancado agora vez alvo).nextRunAt = some u := by
              rw [← found, ← same]
              rfl
            exact absurd (before u next') (Int.not_lt.mpr least)
  · refine ⟨?_, atual, ?_, id, content, next, fun q first t runs from' inside before =>
      old (done q first t runs from' inside before)⟩
    · rintro t ⟨c, mem', key, mark⟩
      rcases List.mem_append.mp mem' with before | new
      · exact andamento.consumidas t ⟨c, before, key, mark⟩
      · obtain rfl := List.mem_singleton.mp new
        exact absurd key.symm own
    · rw [is]
      refine List.mem_map.mpr ⟨atual, mem, if_neg fun marked' => own ?_⟩
      exact id.symm.trans marked'.1

/-- A step keeps how each schedule stands. -/
theorem Andamento.step {row : NewsSchedule} {sh : Noticiario × List Consumo} {acao : Acao}
    (ordem : EmOrdemDeDisparo sh) (andamento : Andamento ate row sh.1 sh.2)
    (pontual : Pontual ate sh acao) :
    Andamento ate row (withHistory Noticiario.step lembrar sh acao).1
      (withHistory Noticiario.step lembrar sh acao).2 := by
  obtain ⟨s, h⟩ := sh
  rw [withHistory]
  dsimp only at andamento ⊢
  cases acao with
  | comecar agora =>
      rw [show lembrar h s (.comecar agora) (s.step (.comecar agora)) = h from List.append_nil h]
      exact andamento.parado rfl
  | fora noticias =>
      rw [show lembrar h s (.fora noticias) (s.step (.fora noticias)) = h from List.append_nil h]
      exact andamento.parado rfl
  | avancar i =>
      cases call : s.rodadas[i]? with
      | none => simpa [Noticiario.step, lembrar, consumo?, call] using andamento
      | some rodada =>
          cases rodada with
          | percorrendo agora vencidos disparadas =>
              cases vencidos with
              | nil => simpa [Noticiario.step, avancar, lembrar, consumo?, call] using andamento
              | cons vez vencidos =>
                  obtain ⟨clock, read, _⟩ := ordem.rodadas i _ call
                  by_cases changed : s.trocou vez = true
                  · have consumed : consumo? s (.avancar i) = some ⟨i, vez, agora⟩ := by
                      simp only [consumo?, call, changed, if_true]
                    have after := pontual ⟨i, vez, agora⟩ consumed
                    simp only [Noticiario.step, avancar, lembrar, consumed,
                      call, Option.toList_some]
                    exact andamento.consumiu ordem.ids changed (read vez List.mem_cons_self) clock
                      after rfl
                  · have nothing : consumo? s (.avancar i) = none := by
                      simp only [consumo?, call, changed, if_false, Bool.false_eq_true]
                    have same : s.trocar agora vez = s.agendamentos := by
                      refine (List.map_congr_left fun row mem => ?_).trans (List.map_id _)
                      exact if_neg fun marked => changed (trocou_iff.mpr ⟨row, mem, marked⟩)
                    simp only [Noticiario.step, avancar, lembrar, nothing, call, Option.toList_none,
                      List.append_nil]
                    exact andamento.parado same
          | publicando agora vez vencidos disparadas =>
              have nothing : consumo? s (.avancar i) = none := by simp only [consumo?, call]
              simp only [Noticiario.step, avancar, lembrar, nothing, call, Option.toList_none,
                List.append_nil]
              split
              · exact andamento.parado rfl
              · exact andamento.parado rfl
          | falhou => simpa [Noticiario.step, avancar, lembrar, consumo?, call] using andamento

/-! ### The calendar -/

/-- A schedule of a news item that the person may see. -/
def Visivel (s : Noticiario) (daIgreja : News → Bool) (row : NewsSchedule) : Prop :=
  (lookup News.id row.newsId s.noticias).any daIgreja

/-- The calendar is sorted, has each occurrence once and, of each schedule, the occurrences of the
period that were consumed; no schedule comes near the limit. -/
structure CalendarioCerto (s : Noticiario) (daIgreja : News → Bool) (de ate : Int)
    (agendados : List Agendado) (h : List Consumo) : Prop where
  emOrdem : agendados.Pairwise fun g g' => g.quando ≤ g'.quando
  umaVez : (agendados.map fun g => (g.scheduleId, g.quando)).Nodup
  exatas : ∀ row ∈ s.agendamentos, Visivel s daIgreja row → ∀ t,
    (row.id, t) ∈ (agendados.map fun g => (g.scheduleId, g.quando)) ↔
      de ≤ t ∧ t < ate ∧ Consumida h row.id t
  daIgreja : ∀ g ∈ agendados, ∃ row ∈ s.agendamentos, row.id = g.scheduleId ∧
    Visivel s daIgreja row
  semCorte : ∀ row ∈ s.agendamentos, (ocorrencias row de ate).length < 100

/-- The entries of one schedule. -/
def entradas (de ate : Int) (par : NewsSchedule × News) : List Agendado :=
  (ocorrencias par.1 de ate).map fun quando =>
    ⟨par.1.id, par.1.kind, quando, par.1.newsId, par.2.title⟩

theorem calendar_ok {daIgreja : News → Bool} {de ate : Int} {agendados : List Agendado}
    (ok : s.calendar daIgreja de ate = .ok agendados) :
    ate - de ≤ periodoMaximoDoCalendarioMs ∧ ∃ pares : List (NewsSchedule × News),
      (pares.map Prod.fst).Sublist s.agendamentos ∧
      (∀ row ∈ s.agendamentos, (∃ news, (row, news) ∈ pares) ↔
        Visivel s daIgreja row ∧ row.nextRunAt.any fun quando => quando < ate) ∧
      agendados = (pares.flatMap (entradas de ate)).mergeSort fun p q => p.quando ≤ q.quando := by
  simp only [calendar, bind_eq_ok_iff, failIf_eq_ok_iff, pure_eq_ok_iff] at ok
  obtain ⟨_, _, _, short, rfl⟩ := ok
  refine ⟨Int.not_lt.mp short, _, ?_, fun row mem => ?_, rfl⟩
  · induction s.agendamentos with
    | nil => exact List.Sublist.refl _
    | cons row rows ih =>
        rw [List.filterMap_cons]
        split
        · exact ih.cons row
        · next par is =>
            simp only [Option.bind_eq_bind, Option.bind_eq_some_iff] at is
            obtain ⟨news, _, is⟩ := is
            split at is
            · obtain rfl := Option.some.inj is
              exact ih.cons_cons row
            · cases is
  · simp only [List.mem_filterMap, Option.bind_eq_bind, Option.bind_eq_some_iff, Visivel,
      Option.any_eq_true]
    constructor
    · rintro ⟨news, other, _, item, found, is⟩
      split at is
      · next holds =>
          obtain ⟨rfl, rfl⟩ := Prod.mk.inj (Option.some.inj is)
          simp only [Bool.and_eq_true, Option.any_eq_true] at holds
          exact ⟨⟨item, found, holds.2⟩, holds.1⟩
      · cases is
    · rintro ⟨⟨news, found, mine⟩, due⟩
      refine ⟨news, row, mem, news, found, ?_⟩
      rw [if_pos]
      simp only [Bool.and_eq_true, Option.any_eq_true]
      exact ⟨due, mine⟩

/-- The calendar of a state is what rounds have consumed that leave no schedule due before the end
of the period. -/
theorem calendarioCerto_of_andamento {fim : Noticiario}
    (ids : (s.agendamentos.map NewsSchedule.id).Nodup)
    (armazenados : ∀ row ∈ s.agendamentos, Armazenado row) {daIgreja : News → Bool} {de : Int}
    {agendados : List Agendado} (ok : s.calendar daIgreja de ate = .ok agendados)
    (andamento : ∀ row ∈ s.agendamentos, Andamento ate row fim h)
    (alcanca : ∀ row ∈ fim.agendamentos, ∀ u, row.nextRunAt = some u → ate ≤ u) :
    CalendarioCerto s daIgreja de ate agendados h := by
  obtain ⟨periodo, pares, sub, chosen, rfl⟩ := calendar_ok ok
  have listed : ∀ par ∈ pares, par.1 ∈ s.agendamentos := fun par mem =>
    sub.subset (List.mem_map_of_mem mem)
  have entry : ∀ g, g ∈ (pares.flatMap (entradas de ate)).mergeSort (fun p q =>
      p.quando ≤ q.quando) ↔ ∃ par ∈ pares, g ∈ entradas de ate par := by
    intro g
    rw [List.mem_mergeSort, List.mem_flatMap]
  refine ⟨?_, ?_, fun row mem visible t => ?_, fun g mem => ?_, fun row mem => ?_⟩
  · have sorted : ((pares.flatMap (entradas de ate)).mergeSort
        fun p q => p.quando ≤ q.quando).Pairwise fun p q => decide (p.quando ≤ q.quando) = true :=
      List.pairwise_mergeSort
        (fun a b c first second => by simp only [decide_eq_true_eq] at *; omega)
        (fun a b => by simp only [Bool.or_eq_true, decide_eq_true_eq]; omega) _
    exact sorted.imp fun le => of_decide_eq_true le
  · refine (((List.mergeSort_perm _ _).map _).nodup_iff).mpr ?_
    rw [List.map_flatMap, List.nodup_flatMap]
    refine ⟨fun par mem => ?_, ?_⟩
    · have sorted := (ocorrencias_spec periodo (armazenados par.1 (listed par mem))).2.1
      rw [entradas, List.map_map]
      refine List.Nodup.map_on ?_ (sorted.imp fun less => Int.ne_of_lt less)
      intro t _ u _ same
      exact (Prod.mk.inj same).2
    · have apart : (pares.map fun par => par.1.id).Nodup := by
        have nodup := ids.sublist (sub.map NewsSchedule.id)
        rwa [List.map_map] at nodup
      refine (List.pairwise_map.mp apart).imp fun {par other} differ => ?_
      refine List.disjoint_left.mpr ?_
      intro entrada here there
      simp only [entradas, List.map_map, List.mem_map, Function.comp] at here there
      obtain ⟨_, _, rfl⟩ := here
      obtain ⟨_, _, same⟩ := there
      exact differ (Prod.mk.inj same).1.symm
  · obtain ⟨consumidas, adiante⟩ := andamento row mem
    obtain ⟨agora, agora_mem, _, _, _, done⟩ := adiante
    have exact_ := (ocorrencias_spec periodo (armazenados row mem)).2.2
    constructor
    · intro there
      obtain ⟨g, g_mem, is⟩ := List.mem_map.mp there
      obtain ⟨par, par_mem, g_in⟩ := (entry g).mp g_mem
      obtain ⟨u, u_mem, rfl⟩ := List.mem_map.mp g_in
      obtain ⟨sameId, rfl⟩ := Prod.mk.inj is
      have same : par.1 = row := List.inj_on_of_nodup_map ids (listed par par_mem) mem sameId
      obtain ⟨q, next, occurs, from', begun, before⟩ := (exact_ u).mp (same ▸ u_mem)
      refine ⟨begun, before, done q next u occurs from' before fun v later => ?_⟩
      exact before.trans_le (alcanca agora agora_mem v later)
    · rintro ⟨begun, before, consumed⟩
      obtain ⟨q, next, occurs, from'⟩ := consumidas t consumed
      have due : row.nextRunAt.any fun quando => quando < ate := by
        rw [next]
        exact decide_eq_true (from'.trans_lt before)
      obtain ⟨news, pair⟩ := (chosen row mem).mpr ⟨visible, due⟩
      refine List.mem_map.mpr ⟨⟨row.id, row.kind, t, row.newsId, news.title⟩, ?_, rfl⟩
      refine (entry _).mpr ⟨(row, news), pair, List.mem_map.mpr ⟨t, ?_, rfl⟩⟩
      exact (exact_ t).mpr ⟨q, next, occurs, from', begun, before⟩
  · obtain ⟨par, par_mem, g_in⟩ := (entry g).mp mem
    obtain ⟨u, _, rfl⟩ := List.mem_map.mp g_in
    exact ⟨par.1, listed par par_mem, rfl,
      ((chosen par.1 (listed par par_mem)).mp ⟨par.2, par_mem⟩).1⟩
  · exact Nat.lt_of_le_of_lt (ocorrencias_spec periodo (armazenados row mem)).1 (by decide)

/-- The interleaved rounds: every exchange of an occurrence of the period is punctual, and nothing
is left due before the end of it. -/
theorem calendarioCerto_of_pontual (ids : (s.agendamentos.map NewsSchedule.id).Nodup)
    (rodadas : s.rodadas = []) (disparos : s.disparos = [])
    (armazenados : ∀ row ∈ s.agendamentos, Armazenado row) {daIgreja : News → Bool} {de : Int}
    {agendados : List Agendado} (ok : s.calendar daIgreja de ate = .ok agendados)
    {acoes : List Acao} (relogio : ∀ acao ∈ acoes, NoRelogio acao)
    (pontual : EachStep (withHistory Noticiario.step lembrar) (Pontual ate) (s, []) acoes)
    (alcanca : ∀ row ∈ (runFrom Noticiario.step s acoes).agendamentos, ∀ u,
      row.nextRunAt = some u → ate ≤ u) :
    CalendarioCerto s daIgreja de ate agendados
      (runFrom (withHistory Noticiario.step lembrar) (s, []) acoes).2 := by
  have start : EmOrdemDeDisparo (s, []) := emOrdem_inicio ids rodadas disparos
  have clocks : EachStep (withHistory Noticiario.step lembrar) (fun _ acao =>
      NoRelogio acao) (s, [])
      acoes := eachStep_of_mem relogio
  have inv : Always (withHistory Noticiario.step lembrar) (fun sh => EmOrdemDeDisparo sh ∧
      ∀ row ∈ s.agendamentos, Andamento ate row sh.1 sh.2) (s, []) acoes :=
    always_of_eachStep (fun _ _ inv guard => ⟨inv.1.step guard.1, fun row mem =>
      (inv.2 row mem).step inv.1 guard.2⟩)
      ⟨start, fun row mem => andamento_inicio mem (armazenados row mem)⟩ (clocks.and pontual)
  obtain ⟨_, andamento⟩ := inv.last
  have fim : (runFrom (withHistory Noticiario.step lembrar) (s, []) acoes).1 =
      runFrom Noticiario.step s acoes := runFrom_withHistory _ _ _ _
  refine calendarioCerto_of_andamento ids armazenados ok andamento ?_
  rw [fim]
  exact alcanca

/-! ### Rounds one after another -/

/-- One round from its read to its end: each schedule it has read takes two statements at most. -/
def rodadaInteira (s : Noticiario) (agora : Int) : List Acao :=
  .comecar agora :: List.replicate (2 * (s.vencidos agora).length) (.avancar s.rodadas.length)

/-- Whole rounds one after another, each with the news it finds and its instant. -/
def emSequencia (s : Noticiario) : List (List News × Int) → List Acao
  | [] => []
  | (noticias, agora) :: resto =>
      let acoes := .fora noticias :: rodadaInteira { s with noticias := noticias } agora
      acoes ++ emSequencia (runFrom Noticiario.step s acoes) resto

/-- Some round falls less than a minute after each occurrence before the end of the period. -/
def Acompanha (ate : Int) (instantes : List Int) (row : NewsSchedule) : Prop :=
  ∀ q, row.nextRunAt = some q → ∀ t, Ocorre row.toAgendamento t → q ≤ t → t < ate →
    ∃ agora ∈ instantes, t ≤ agora ∧ agora < t + 60 * 1000

/-- The schedule and its news. -/
def linha (row : NewsSchedule) : Id × Id := (row.id, row.newsId)

/-- Whole rounds at the instants `feitos` left no schedule due up to any of them. -/
structure EmDiaAte (inicio : Noticiario) (ate : Int) (feitos : List Int)
    (sh : Noticiario × List Consumo) : Prop where
  ordem : EmOrdemDeDisparo sh
  andamento : ∀ row ∈ inicio.agendamentos, Andamento ate row sh.1 sh.2
  linhas : sh.1.agendamentos.map linha = inicio.agendamentos.map linha
  adiante : ∀ row ∈ sh.1.agendamentos, ∀ u, row.nextRunAt = some u → ∀ a ∈ feitos, a < u

/-- The schedules a round still has to visit are all that are due. -/
def PorVisitar (s : Noticiario) (agora : Int) (vencidos : List Vencido) : Prop :=
  ∀ row ∈ s.agendamentos, ∀ u, row.nextRunAt = some u → u ≤ agora →
    ∃ vez ∈ vencidos, Marcado vez row

section Rodada

variable {feitos resto : List Int} {agora : Int} {sh : Noticiario × List Consumo}

theorem map_linha_trocar (agora : Int) (vez : Vencido) :
    (s.trocar agora vez).map linha = s.agendamentos.map linha := by
  rw [trocar, List.map_map]
  refine List.map_congr_left fun row _ => ?_
  simp only [Function.comp]
  split <;> rfl

/-- The exchange moves a schedule past the round. -/
theorem lt_avancado {vez : Vencido} {row : NewsSchedule} {u : Int}
    (next : (avancado agora vez row).nextRunAt = some u) : agora < u :=
  lt_proximaExecucao next

theorem PorVisitar.trocar {vez : Vencido} {vencidos : List Vencido}
    (porVisitar : PorVisitar s agora (vez :: vencidos))
    (is : s'.agendamentos = s.trocar agora vez) :
    PorVisitar s' agora vencidos := by
  intro row' mem u next due
  rw [is] at mem
  obtain ⟨row, old, _, _, ⟨_, rfl⟩ | ⟨apart, rfl⟩⟩ := mem_trocar mem
  · exact absurd due (Int.not_le.mpr (lt_avancado next))
  · obtain ⟨outra, outra_mem, marked⟩ := porVisitar row' old u next due
    rcases List.mem_cons.mp outra_mem with rfl | later
    · exact absurd marked apart
    · exact ⟨outra, later, marked⟩

/-- The next run of a schedule before the end of the period has a round to come close to it. -/
theorem EmDiaAte.perto (emDia : EmDiaAte inicio ate feitos sh)
    (acompanham : ∀ row ∈ inicio.agendamentos, Acompanha ate (feitos ++ agora :: resto) row)
    (sorted : ∀ a ∈ resto, agora ≤ a) {atual : NewsSchedule} (mem : atual ∈ sh.1.agendamentos)
    {u : Int} (next : atual.nextRunAt = some u) (inside : u < ate) : agora < u + 60 * 1000 := by
  have key : linha atual ∈ inicio.agendamentos.map linha := emDia.linhas ▸ List.mem_map_of_mem mem
  obtain ⟨row, row_mem, same⟩ := List.mem_map.mp key
  obtain ⟨outro, outro_mem, id, _, runs, _⟩ := (emDia.andamento row row_mem).adiante
  obtain rfl : outro = atual := List.inj_on_of_nodup_map emDia.ordem.ids outro_mem mem
    (id.trans (Prod.mk.inj same).1)
  obtain ⟨q, first, occurs, from'⟩ := runs u next
  obtain ⟨a, a_mem, after, close⟩ := acompanham row row_mem q first u occurs from' inside
  rcases List.mem_append.mp a_mem with done | rest
  · exact absurd after (Int.not_le.mpr (emDia.adiante outro mem u next a done))
  · rcases List.mem_cons.mp rest with rfl | rest
    · exact close
    · exact (sorted a rest).trans_lt close

/-- A step that exchanges at most what is due at `agora`. -/
theorem EmDiaAte.step (emDia : EmDiaAte inicio ate feitos sh) {acao : Acao}
    (relogio : NoRelogio acao) (pontual : Pontual ate sh acao) (sofar : ∀ a ∈ feitos, a ≤ agora)
    (rows : (sh.1.step acao).agendamentos = sh.1.agendamentos ∨
      ∃ vez, (sh.1.step acao).agendamentos = sh.1.trocar agora vez) :
    EmDiaAte inicio ate feitos (withHistory Noticiario.step lembrar sh acao) := by
  refine ⟨emDia.ordem.step relogio, fun row mem =>
    (emDia.andamento row mem).step emDia.ordem pontual, ?_, ?_⟩
  · rcases rows with same | ⟨vez, is⟩
    · exact (congrArg _ same).trans emDia.linhas
    · exact (congrArg _ is).trans ((map_linha_trocar agora vez).trans emDia.linhas)
  · intro row' mem u next a done
    rcases rows with same | ⟨vez, is⟩
    · exact emDia.adiante row' (same ▸ mem) u next a done
    · have mem : row' ∈ sh.1.trocar agora vez := is ▸ mem
      obtain ⟨row, old, _, _, ⟨_, rfl⟩ | ⟨_, rfl⟩⟩ := mem_trocar mem
      · exact (sofar a done).trans_lt (lt_avancado next)
      · exact emDia.adiante row' old u next a done

/-- A round that has nothing left to visit stays where it is. -/
theorem runFrom_parado {i : Nat} {disparadas : List Id}
    (call : sh.1.rodadas[i]? = some (.percorrendo agora [] disparadas)) (passos : Nat) :
    runFrom (withHistory Noticiario.step lembrar) sh (List.replicate passos (.avancar i)) = sh := by
  have same : withHistory Noticiario.step lembrar sh (.avancar i) = sh := by
    obtain ⟨s, h⟩ := sh
    simp [withHistory, Noticiario.step, avancar, lembrar, consumo?, call]
  induction passos with
  | zero => rfl
  | succ passos ih => rw [List.replicate_succ, runFrom_cons, same, ih]

/-- A round publishes news that exist and goes on, with every schedule where it was. -/
theorem publica_ok {i : Nat} {vez : Vencido} {vencidos : List Vencido} {disparadas : List Id}
    (call : s.rodadas[i]? = some (.publicando agora vez vencidos disparadas))
    (exists_ : (lookup News.id vez.news.id s.noticias).isSome) :
    (s.step (.avancar i)).agendamentos = s.agendamentos ∧
      (s.step (.avancar i)).rodadas[i]? = some (.percorrendo agora vencidos disparadas) ∧
      (∀ newsId, (lookup News.id newsId s.noticias).isSome →
        (lookup News.id newsId (s.step (.avancar i)).noticias).isSome) ∧
      ∀ ate h, Pontual ate (s, h) (.avancar i) := by
  have moved : s.step (.avancar i) = { s with
      noticias := s.publicar agora vez.news.id
      rodadas := s.rodadas.set i (.percorrendo agora vencidos disparadas)
      disparos := s.disparos ++
        [⟨i, vez.agendamento.id, vez.marcado, vez.news.id, agora⟩] } := by
    simp only [Noticiario.step, call, avancar, exists_, if_true]
  rw [moved]
  refine ⟨rfl, getElem?_moved_self call, fun newsId found => ?_, fun ate h c consumed => ?_⟩
  · have kept : ∀ news : News, News.id { news with publishedAt := some agora } = news.id :=
      fun _ => rfl
    dsimp only [publicar]
    rw [lookup_updateKey kept]
    split
    · rwa [Option.isSome_map]
    · exact found
  · simp [consumo?, call] at consumed

/-- The rest of a round, by the schedules it has left to visit. -/
theorem EmDiaAte.percorre {i : Nat} (sofar : ∀ a ∈ feitos, a ≤ agora)
    (acompanham : ∀ row ∈ inicio.agendamentos, Acompanha ate (feitos ++ agora :: resto) row)
    (sorted : ∀ a ∈ resto, agora ≤ a) (vencidos : List Vencido) :
    ∀ {passos : Nat} {sh : Noticiario × List Consumo} {disparadas : List Id},
      2 * vencidos.length ≤ passos → EmDiaAte inicio ate feitos sh →
      sh.1.rodadas[i]? = some (.percorrendo agora vencidos disparadas) →
      PorVisitar sh.1 agora vencidos →
      (∀ vez ∈ vencidos, (lookup News.id vez.news.id sh.1.noticias).isSome) →
        EmDiaAte inicio ate (feitos ++ [agora])
          (runFrom (withHistory Noticiario.step lembrar) sh
            (List.replicate passos (.avancar i))) := by
  induction vencidos with
  | nil =>
      intro passos sh disparadas _ emDia call porVisitar _
      rw [runFrom_parado call]
      refine ⟨emDia.ordem, emDia.andamento, emDia.linhas, fun row mem u next a done => ?_⟩
      rcases List.mem_append.mp done with before | now
      · exact emDia.adiante row mem u next a before
      · obtain rfl := List.mem_singleton.mp now
        refine Int.not_le.mp fun due => ?_
        obtain ⟨_, none, _⟩ := porVisitar row mem u next due
        exact List.not_mem_nil none
  | cons vez vencidos ih =>
      intro passos sh disparadas enough emDia call porVisitar news
      obtain ⟨n, rfl⟩ : ∃ n, passos = n + 2 := ⟨passos - 2, by simp at enough; omega⟩
      have rest : 2 * vencidos.length ≤ n := by simp at enough; omega
      obtain ⟨s, h⟩ := sh
      have moved : s.step (.avancar i) = { s with
          agendamentos := s.trocar agora vez
          rodadas := s.rodadas.set i (s.volta agora vez vencidos disparadas) } := by
        simp only [Noticiario.step, call, avancar]
      have pontual : Pontual ate (s, h) (.avancar i) := by
        intro c consumed inside
        simp only [consumo?, call] at consumed
        split at consumed
        · next changed =>
            obtain rfl := Option.some.inj consumed
            obtain ⟨row, mem, marked⟩ := trocou_iff.mp changed
            exact emDia.perto acompanham sorted mem marked.2 inside
        · cases consumed
      have emDia' : EmDiaAte inicio ate feitos
          (withHistory Noticiario.step lembrar (s, h) (.avancar i)) :=
        emDia.step trivial pontual sofar (.inr ⟨vez, by rw [moved]⟩)
      have porVisitar' : PorVisitar (s.step (.avancar i)) agora vencidos :=
        porVisitar.trocar (by rw [moved])
      have news' : ∀ vez ∈ vencidos,
          (lookup News.id vez.news.id (s.step (.avancar i)).noticias).isSome := by
        rw [moved]
        exact fun outra mem => news outra (List.mem_cons_of_mem _ mem)
      have next : (s.step (.avancar i)).rodadas[i]? =
          some (s.volta agora vez vencidos disparadas) := by
        rw [moved]
        exact getElem?_moved_self call
      rw [List.replicate_succ, runFrom_cons]
      rw [volta] at next
      split at next
      · obtain ⟨rows, later, published, quiet⟩ := publica_ok next (by
          rw [moved]
          exact news vez List.mem_cons_self)
        have emDia'' : EmDiaAte inicio ate feitos (withHistory Noticiario.step lembrar
            (withHistory Noticiario.step lembrar (s, h) (.avancar i)) (.avancar i)) :=
          emDia'.step trivial (quiet _ _) sofar (.inl rows)
        rw [List.replicate_succ, runFrom_cons]
        refine ih rest emDia'' later (fun row mem => porVisitar' row (rows ▸ mem)) fun outra mem =>
          ?_
        exact published _ (news' outra mem)
      · exact ih (rest.trans (Nat.le_succ n)) emDia' next porVisitar' news'

/-- A whole round leaves nothing due up to its instant. -/
theorem EmDiaAte.rodada {noticias : List News} (emDia : EmDiaAte inicio ate feitos sh)
    (relogio : 0 ≤ agora + fusoMs) (sofar : ∀ a ∈ feitos, a ≤ agora)
    (acompanham : ∀ row ∈ inicio.agendamentos, Acompanha ate (feitos ++ agora :: resto) row)
    (sorted : ∀ a ∈ resto, agora ≤ a)
    (news : ∀ row ∈ inicio.agendamentos, (lookup News.id row.newsId noticias).isSome) :
    EmDiaAte inicio ate (feitos ++ [agora])
      (runFrom (withHistory Noticiario.step lembrar) sh
        (.fora noticias :: rodadaInteira { sh.1 with noticias := noticias } agora)) := by
  obtain ⟨s, h⟩ := sh
  have edited : EmDiaAte inicio ate feitos
      (withHistory Noticiario.step lembrar (s, h) (.fora noticias)) :=
    emDia.step trivial (fun c consumed => by cases consumed) sofar (.inl rfl)
  have begun : EmDiaAte inicio ate feitos (withHistory Noticiario.step lembrar
      (withHistory Noticiario.step lembrar (s, h) (.fora noticias)) (.comecar agora)) :=
    edited.step relogio (fun c consumed => by cases consumed) sofar (.inl rfl)
  have found : ∀ row ∈ s.agendamentos, ∃ item, lookup News.id row.newsId noticias = some item := by
    intro row mem
    have key : linha row ∈ inicio.agendamentos.map linha := emDia.linhas ▸ List.mem_map_of_mem mem
    obtain ⟨first, first_mem, same⟩ := List.mem_map.mp key
    rw [← (Prod.mk.inj same).2]
    exact Option.isSome_iff_exists.mp (news first first_mem)
  rw [rodadaInteira, runFrom_cons, runFrom_cons]
  refine begun.percorre sofar acompanham sorted _ (Nat.le_refl _) List.getElem?_concat_length ?_ ?_
  · intro row mem u next due
    obtain ⟨item, is⟩ := found row mem
    refine ⟨⟨row, u, item⟩, List.mem_filterMap.mpr ⟨row, mem, ?_⟩, rfl, next⟩
    simp [next, is, due]
  · intro vez mem
    obtain ⟨row, _, is⟩ := List.mem_filterMap.mp mem
    simp only [Option.bind_eq_bind, Option.bind_eq_some_iff] at is
    obtain ⟨u, _, item, there, is⟩ := is
    split at is
    · obtain rfl := Option.some.inj is
      exact Option.isSome_iff_exists.mpr ⟨item, by rw [lookup_key there]; exact there⟩
    · cases is

end Rodada

/-- Whole rounds at sorted instants, from the ones already made. -/
theorem EmDiaAte.emSequencia (resto : List (List News × Int)) :
    ∀ {feitos : List Int} {sh : Noticiario × List Consumo}, EmDiaAte inicio ate feitos sh →
      (∀ rodada ∈ resto, 0 ≤ rodada.2 + fusoMs) →
      (∀ rodada ∈ resto, ∀ row ∈ inicio.agendamentos,
        (lookup News.id row.newsId rodada.1).isSome) →
      (feitos ++ resto.map Prod.snd).Pairwise (· ≤ ·) →
      (∀ row ∈ inicio.agendamentos, Acompanha ate (feitos ++ resto.map Prod.snd) row) →
        EmDiaAte inicio ate (feitos ++ resto.map Prod.snd)
          (runFrom (withHistory Noticiario.step lembrar) sh (sh.1.emSequencia resto)) := by
  induction resto with
  | nil =>
      intro feitos sh emDia _ _ _ _
      rwa [List.map_nil, List.append_nil]
  | cons rodada resto ih =>
      intro feitos sh emDia relogio news sorted acompanham
      obtain ⟨noticias, agora⟩ := rodada
      obtain ⟨_, later, before⟩ := List.pairwise_append.mp sorted
      have done := emDia.rodada (relogio _ List.mem_cons_self)
        (fun a mem => before a mem agora List.mem_cons_self) acompanham
        (List.pairwise_cons.mp later).1 (news _ List.mem_cons_self)
      have same : feitos ++ ((noticias, agora) :: resto).map Prod.snd =
          feitos ++ [agora] ++ resto.map Prod.snd := by simp
      rw [same] at sorted acompanham ⊢
      have fim := ih done (fun r mem => relogio r (List.mem_cons_of_mem _ mem))
        (fun r mem => news r (List.mem_cons_of_mem _ mem)) sorted acompanham
      rw [runFrom_withHistory] at fim
      rw [Noticiario.emSequencia, runFrom, List.foldl_append]
      exact fim

/-- Whole rounds one after another, one less than a minute after each occurrence. -/
theorem calendarioCerto_emSequencia (ids : (s.agendamentos.map NewsSchedule.id).Nodup)
    (rodadas : s.rodadas = []) (disparos : s.disparos = [])
    (armazenados : ∀ row ∈ s.agendamentos, Armazenado row) {daIgreja : News → Bool} {de : Int}
    {agendados : List Agendado} (ok : s.calendar daIgreja de ate = .ok agendados)
    {instantes : List (List News × Int)} (relogio : ∀ rodada ∈ instantes, 0 ≤ rodada.2 + fusoMs)
    (news : ∀ rodada ∈ instantes, ∀ row ∈ s.agendamentos,
      (lookup News.id row.newsId rodada.1).isSome)
    (sorted : (instantes.map Prod.snd).Pairwise (· ≤ ·))
    (acompanham : ∀ row ∈ s.agendamentos, Acompanha ate (instantes.map Prod.snd) row) :
    CalendarioCerto s daIgreja de ate agendados
      (runFrom (withHistory Noticiario.step lembrar) (s, []) (s.emSequencia instantes)).2 := by
  have start : EmDiaAte s ate [] (s, []) :=
    { ordem := emOrdem_inicio ids rodadas disparos
      andamento := fun row mem => andamento_inicio mem (armazenados row mem)
      linhas := rfl
      adiante := fun _ _ _ _ a none => absurd none List.not_mem_nil }
  have fim : EmDiaAte s ate (instantes.map Prod.snd)
      (runFrom (withHistory Noticiario.step lembrar) (s, []) (s.emSequencia instantes)) :=
    start.emSequencia instantes relogio news sorted acompanham
  refine calendarioCerto_of_andamento ids armazenados ok fim.andamento fun atual mem u next => ?_
  -- an occurrence still due in the period had a round after it
  by_contra early
  have key : linha atual ∈ s.agendamentos.map linha := fim.linhas ▸ List.mem_map_of_mem mem
  obtain ⟨row, row_mem, same⟩ := List.mem_map.mp key
  obtain ⟨outro, outro_mem, id, _, runs, _⟩ := (fim.andamento row row_mem).adiante
  obtain rfl : outro = atual := List.inj_on_of_nodup_map fim.ordem.ids outro_mem mem
    (id.trans (Prod.mk.inj same).1)
  obtain ⟨q, first, occurs, from'⟩ := runs u next
  obtain ⟨a, a_mem, after, _⟩ := acompanham row row_mem q first u occurs from' (Int.not_le.mp early)
  exact absurd after (Int.not_le.mpr (fim.adiante outro mem u next a a_mem))

/-- Whoever runs the rounds, the calendar is what they consume: when they interleave, if every
exchange of an occurrence of the period is punctual and nothing is left due before the end of it;
when they run one after another, if one falls less than a minute after each occurrence. -/
theorem calendario_run (s : Noticiario) (ids : (s.agendamentos.map NewsSchedule.id).Nodup)
    (rodadas : s.rodadas = []) (disparos : s.disparos = [])
    (armazenados : ∀ row ∈ s.agendamentos, Armazenado row) (daIgreja : News → Bool) (de ate : Int)
    (agendados : List Agendado) (ok : s.calendar daIgreja de ate = .ok agendados) :
    (∀ acoes : List Acao, (∀ acao ∈ acoes, NoRelogio acao) →
      EachStep (withHistory Noticiario.step lembrar) (Pontual ate) (s, []) acoes →
      (∀ row ∈ (runFrom Noticiario.step s acoes).agendamentos, ∀ u,
        row.nextRunAt = some u → ate ≤ u) →
        CalendarioCerto s daIgreja de ate agendados
          (runFrom (withHistory Noticiario.step lembrar) (s, []) acoes).2) ∧
    ∀ instantes : List (List News × Int), (∀ rodada ∈ instantes, 0 ≤ rodada.2 + fusoMs) →
      (∀ rodada ∈ instantes, ∀ row ∈ s.agendamentos,
        (lookup News.id row.newsId rodada.1).isSome) →
      (instantes.map Prod.snd).Pairwise (· ≤ ·) →
      (∀ row ∈ s.agendamentos, Acompanha ate (instantes.map Prod.snd) row) →
        CalendarioCerto s daIgreja de ate agendados
          (runFrom (withHistory Noticiario.step lembrar) (s, []) (s.emSequencia instantes)).2 :=
  ⟨fun _ relogio pontual alcanca =>
      calendarioCerto_of_pontual ids rodadas disparos armazenados ok relogio pontual alcanca,
    fun _ relogio news sorted acompanham =>
      calendarioCerto_emSequencia ids rodadas disparos armazenados ok relogio news
        sorted acompanham⟩

end Noticiario

namespace TodaQuinta

/-- Every Thursday at noon. -/
def quinta : Agendamento := ⟨.weekly, none, [4], some ⟨12, 0⟩⟩

def inicio : Noticiario where
  agendamentos := [⟨quinta, 1, 7, some 54000000, none⟩]
  noticias := [⟨7, "Culto", true, none, none, []⟩]
  rodadas := []
  disparos := []

/-- A round half a minute late. -/
def rodada : List Noticiario.Acao := [.comecar 54030000, .avancar 0, .avancar 0]

def instantes : List (List News × Int) := [(inicio.noticias, 54030000)]

/-- The one Thursday of the period has its round. -/
theorem acompanha :
    Noticiario.Acompanha 97200000 (instantes.map Prod.snd) ⟨quinta, 1, 7, some 54000000, none⟩ := by
  intro q next t occurs from' before
  obtain rfl := Option.some.inj next
  obtain ⟨time, is, n, _, rfl⟩ := occurs
  obtain rfl := Option.some.inj is
  refine ⟨54030000, List.mem_singleton_self _, ?_⟩
  simp only [Horario.ms, diaMs, fusoMs] at *
  norm_num at *
  omega

theorem armazenado : Noticiario.Armazenado ⟨quinta, 1, 7, some 54000000, none⟩ := by
  refine ⟨⟨.weekly, none, some [4], some "12:00"⟩, 10800000, some 54000000, by decide, ?_, .inl rfl⟩
  have time : lerHorario "12:00" = some ⟨12, 0⟩ := by decide
  have first : proximaExecucao quinta 10800000 = some 54000000 := by decide
  simp only [validarAgendamento, Option.getD_some, List.dedup_cons_of_notMem List.not_mem_nil,
    List.dedup_nil, List.mergeSort_singleton, Option.bind_some, time]
  exact congrArg (fun proxima => Except.ok (quinta, proxima)) first

theorem calendario : inicio.calendar (fun _ => true) 10800000 97200000 =
    .ok [⟨1, .weekly, 54000000, 7, "Culto"⟩] := by
  have again : proximaExecucao quinta 54000000 = some 658800000 := by decide
  have last : Noticiario.percorrer quinta 10800000 97200000 658800000 [54000000] = [54000000] := by
    rw [Noticiario.percorrer]
    rfl
  have first : Noticiario.percorrer quinta 10800000 97200000 54000000 [] = [54000000] := by
    rw [Noticiario.percorrer, if_pos (by decide)]
    dsimp only
    split
    · next proxima found =>
        rw [again] at found
        obtain rfl := Option.some.inj found
        exact last
    · next found =>
        rw [again] at found
        cases found
  simp [Noticiario.calendar, inicio, lookup, failIf, periodoMaximoDoCalendarioMs,
    Noticiario.ocorrencias, first, bind, Except.bind, pure, Except.pure]
  rfl

end TodaQuinta

/-- The Thursday of the period is in the calendar, and is consumed by the statements of a round as
by the whole of it. -/
theorem calendario_run_todaQuinta :
    Noticiario.CalendarioCerto TodaQuinta.inicio (fun _ => true) 10800000 97200000
        [⟨1, .weekly, 54000000, 7, "Culto"⟩]
        (runFrom (withHistory Noticiario.step Noticiario.lembrar) (TodaQuinta.inicio, [])
          TodaQuinta.rodada).2 ∧
      Noticiario.CalendarioCerto TodaQuinta.inicio (fun _ => true) 10800000 97200000
        [⟨1, .weekly, 54000000, 7, "Culto"⟩]
        (runFrom (withHistory Noticiario.step Noticiario.lembrar) (TodaQuinta.inicio, [])
          (TodaQuinta.inicio.emSequencia TodaQuinta.instantes)).2 := by
  have armazenados : ∀ row ∈ TodaQuinta.inicio.agendamentos, Noticiario.Armazenado row := by
    intro row mem
    rw [List.mem_singleton.mp mem]
    exact TodaQuinta.armazenado
  obtain ⟨porPasso, porRodada⟩ := Noticiario.calendario_run TodaQuinta.inicio (by decide) rfl rfl
    armazenados (fun _ => true) 10800000 97200000 _ TodaQuinta.calendario
  refine ⟨porPasso TodaQuinta.rodada ?_ ?_ (by decide), porRodada TodaQuinta.instantes
    (by decide) ?_ (List.pairwise_singleton _ _) ?_⟩
  · simp [TodaQuinta.rodada, Noticiario.NoRelogio, fusoMs]
  · refine ⟨fun c is => (by cases is), fun c is => ?_, fun c is => (by cases is), trivial⟩
    obtain rfl := Option.some.inj is
    decide
  · intro rodada mem row row_mem
    rw [List.mem_singleton.mp mem, List.mem_singleton.mp row_mem]
    rfl
  · intro row mem
    rw [List.mem_singleton.mp mem]
    exact TodaQuinta.acompanha

end IccvBackend
