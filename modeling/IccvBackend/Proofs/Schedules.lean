/-
Module: IccvBackend.Proofs.Schedules
Purpose: What the next run of a schedule is: the first of its occurrences after an instant.
Trusted boundary: none
Main exports: Agendamento.Ocorre, Agendamento.Primeira, proximaExecucao_primeira,
  Agendamento.Semanal, proximaExecucao_semanal
-/
import IccvBackend.News.Agendamento
import Mathlib.Data.List.Nodup
import Mathlib.Algebra.Order.Ring.Int
import Mathlib.Order.Bounds.Defs

namespace IccvBackend

open Lib

namespace Agendamento

variable {a : Agendamento} {t u : Int}

/-- The runs of a schedule: its instant, or its time on the days it has, counted from 1970 in
Brasília. -/
def Ocorre (a : Agendamento) (t : Int) : Prop :=
  match a.kind with
  | .once => a.runAt = some t
  | .weekly => ∃ time, a.time = some time ∧
      ∃ n : Int, (n + 4) % 7 ∈ a.weekdays ∧ t = n * diaMs - fusoMs + time.ms

/-- The first run after an instant, if there is one. -/
def Primeira (a : Agendamento) (depoisDe : Int) : Option Int → Prop
  | none => ∀ t, Ocorre a t → t ≤ depoisDe
  | some u => Ocorre a u ∧ depoisDe < u ∧ ∀ t, Ocorre a t → depoisDe < t → u ≤ t

theorem Primeira.unica {r r' : Option Int} (first : Primeira a t r) (first' : Primeira a t r') :
    r = r' := by
  cases r with
  | none =>
      cases r' with
      | none => rfl
      | some v =>
          obtain ⟨occurs, after, _⟩ := first'
          exact absurd (first v occurs) (Int.not_le.mpr after)
  | some u =>
      obtain ⟨occurs, after, least⟩ := first
      cases r' with
      | none => exact absurd (first' u occurs) (Int.not_le.mpr after)
      | some v =>
          obtain ⟨occurs', after', least'⟩ := first'
          exact congrArg some (Int.le_antisymm (least v occurs' after') (least' u occurs after))

theorem Horario.ms_nonneg (h : Horario) : 0 ≤ h.ms := by
  unfold Horario.ms
  omega

theorem Horario.ms_lt (h : Horario) : h.ms < diaMs := by
  have hora := h.hora.isLt
  have minuto := h.minuto.isLt
  unfold Horario.ms diaMs
  omega

/-- The candidate of the `d`-th day falls on day `q + d`: six in the morning of it. -/
theorem diaDaSemana_candidato (q : Int) (d : Nat) :
    diaDaSemana (q * diaMs - fusoMs + d * diaMs - fusoMs) = (q + d + 4) % 7 := by
  unfold diaDaSemana diaMs fusoMs
  omega

/-- After an instant of day `q`, a run of the schedule falls within the next eight days or there is
one on the same day of the week that does. -/
theorem dentroDaSemana {time : Horario} {q n : Int}
    (after : q * diaMs - fusoMs ≤ t) (before : t < (q + 1) * diaMs - fusoMs)
    (later : t < n * diaMs - fusoMs + time.ms) :
    ∃ d : Nat, d < 8 ∧ (q + d + 4) % 7 = (n + 4) % 7 ∧
      t < q * diaMs - fusoMs + d * diaMs + time.ms ∧ q + d ≤ n := by
  have pos := Horario.ms_nonneg time
  have lt := Horario.ms_lt time
  unfold diaMs fusoMs at *
  have floor : q ≤ n := by
    by_contra less
    omega
  by_cases near : n ≤ q + 7
  · exact ⟨(n - q).toNat, by omega, by omega, by omega, by omega⟩
  · -- a whole number of weeks back, but not before tomorrow
    exact ⟨((n - q - 1) % 7 + 1).toNat, by omega, by omega, by omega, by omega⟩

end Agendamento

open Agendamento

/-- `proximaExecucao` finds the first run after an instant of the clock. -/
theorem proximaExecucao_primeira (a : Agendamento) {t : Int} (clock : 0 ≤ t + fusoMs) :
    Primeira a t (proximaExecucao a t) := by
  unfold proximaExecucao
  cases kind : a.kind with
  | once =>
      dsimp only
      cases at' : a.runAt with
      | none =>
          intro u occurs
          simp only [Ocorre, kind, at', reduceCtorEq] at occurs
      | some quando =>
          by_cases later : t < quando
          · simp only [Option.filter, later, decide_true, if_true]
            refine ⟨by simp only [Ocorre, kind, at'], later, fun u occurs _ => ?_⟩
            simp only [Ocorre, kind, at', Option.some.injEq] at occurs
            exact occurs.le
          · simp only [Option.filter, later, decide_false, Bool.false_eq_true, if_false]
            intro u occurs
            simp only [Ocorre, kind, at', Option.some.injEq] at occurs
            exact occurs ▸ Int.not_lt.mp later
  | weekly =>
      dsimp only
      cases time' : a.time with
      | none =>
          intro u occurs
          simp only [Ocorre, kind, time', reduceCtorEq, false_and, exists_false] at occurs
      | some time =>
          have start : t + fusoMs - (t + fusoMs).tmod diaMs - fusoMs =
              (t + fusoMs) / diaMs * diaMs - fusoMs := by
            rw [Int.tmod_eq_emod_of_nonneg clock]
            have split := Int.emod_add_mul_ediv (t + fusoMs) diaMs
            linarith [mul_comm diaMs ((t + fusoMs) / diaMs)]
          simp only [start]
          obtain ⟨q, hq⟩ : ∃ q, q = (t + fusoMs) / diaMs := ⟨_, rfl⟩
          rw [← hq]
          have after : q * diaMs - fusoMs ≤ t := by
            unfold diaMs fusoMs at *
            omega
          have before : t < (q + 1) * diaMs - fusoMs := by
            unfold diaMs fusoMs at *
            omega
          simp only [diaDaSemana_candidato]
          cases found : (List.range 8).find? fun d : Nat =>
              a.weekdays.contains ((q + d + 4) % 7) &&
                decide (t < q * diaMs - fusoMs + d * diaMs + time.ms) with
          | none =>
              intro u occurs
              by_contra later
              simp only [Ocorre, kind] at occurs
              obtain ⟨_, is, n, day, rfl⟩ := occurs
              obtain rfl := Option.some.inj (time'.symm.trans is)
              obtain ⟨d, lt, same, cand, _⟩ := dentroDaSemana after before (Int.not_le.mp later)
              have fails := List.find?_eq_none.mp found d (List.mem_range.mpr lt)
              simp [same, day, cand] at fails
          | some d =>
              obtain ⟨holds, _, first⟩ := List.find?_range_eq_some.mp found
              simp only [Bool.and_eq_true, List.contains_iff_mem, decide_eq_true_eq] at holds
              refine ⟨?_, holds.2, fun u occurs later => ?_⟩
              · simp only [Ocorre, kind]
                refine ⟨time, time', q + d, holds.1, ?_⟩
                unfold diaMs fusoMs
                omega
              · simp only [Ocorre, kind] at occurs
                obtain ⟨_, is, n, day, rfl⟩ := occurs
                obtain rfl := Option.some.inj (time'.symm.trans is)
                obtain ⟨e, lt, same, cand, le⟩ := dentroDaSemana after before later
                have order : d ≤ e := by
                  by_contra less
                  have fails := first e (Nat.not_le.mp less)
                  simp [same, day, cand] at fails
                have days : q + d ≤ n := by omega
                have bound := Int.mul_le_mul_of_nonneg_right days (by decide : 0 ≤ diaMs)
                linarith [add_mul q (d : Int) diaMs]

/-! ### Weekly schedules -/

namespace Agendamento

variable {a : Agendamento} {time : Horario} {t u : Int}

/-- A run of a weekly schedule, read off the clock of Brasília: its day of the week, and its
time. -/
structure Semanal (weekdays : List Int) (time : Horario) (t : Int) : Prop where
  dia : diaDaSemana (t + fusoMs) ∈ weekdays
  hora : (t + fusoMs) % diaMs = time.ms

theorem ocorre_semanal_iff (weekly : a.kind = .weekly) (at' : a.time = some time) :
    Ocorre a t ↔ Semanal a.weekdays time t := by
  have pos := Horario.ms_nonneg time
  have lt := Horario.ms_lt time
  have days : ∀ n : Int, diaDaSemana (n * diaMs - fusoMs + time.ms + fusoMs) = (n + 4) % 7 := by
    intro n
    unfold diaDaSemana diaMs at *
    omega
  constructor
  · intro occurs
    simp only [Ocorre, weekly] at occurs
    obtain ⟨_, is, n, day, rfl⟩ := occurs
    obtain rfl := Option.some.inj (at'.symm.trans is)
    refine ⟨by rw [days]; exact day, ?_⟩
    unfold diaMs at *
    omega
  · intro run
    have start : t = (t + fusoMs) / diaMs * diaMs - fusoMs + time.ms := by
      rw [← run.hora]
      unfold diaMs
      omega
    have day := run.dia
    rw [start, days] at day
    simp only [Ocorre, weekly]
    exact ⟨time, at', (t + fusoMs) / diaMs, day, start⟩

/-- A day of the week comes again within seven days, at any time of day. -/
theorem exists_semanal {dia : Int} {weekdays : List Int} (mem : dia ∈ weekdays) (ge : 0 ≤ dia)
    (le : dia ≤ 6) (time : Horario) (t : Int) :
    ∃ u, Semanal weekdays time u ∧ t < u ∧ u ≤ t + 7 * diaMs := by
  have pos := Horario.ms_nonneg time
  have lt := Horario.ms_lt time
  -- the last such day that began, counted in days of Brasília
  obtain ⟨n, day, after, before⟩ : ∃ n : Int, (n + 4) % 7 = dia ∧
      t < n * diaMs - fusoMs + time.ms ∧ n * diaMs - fusoMs + time.ms ≤ t + 7 * diaMs := by
    unfold diaMs fusoMs at *
    exact ⟨(t + -10800000 - time.ms) / 86400000 + 1 +
      (dia - 4 - ((t + -10800000 - time.ms) / 86400000 + 1)) % 7, by omega, by omega, by omega⟩
  refine ⟨n * diaMs - fusoMs + time.ms, ⟨?_, ?_⟩, after, before⟩
  · have same : diaDaSemana (n * diaMs - fusoMs + time.ms + fusoMs) = (n + 4) % 7 := by
      unfold diaDaSemana diaMs at *
      omega
    rw [same, day]
    exact mem
  · unfold diaMs at *
    omega

end Agendamento

/-- What `validarAgendamento` accepts as a weekly schedule. -/
theorem validarAgendamento_semanal {entrada : EntradaDoAgendamento} {agora : Int} {a : Agendamento}
    {primeira : Option Int} (weekly : entrada.kind = .weekly)
    (accepted : validarAgendamento entrada agora = .ok (a, primeira)) :
    a.kind = .weekly ∧ (∀ dia, dia ∈ a.weekdays ↔ dia ∈ entrada.weekdays.getD []) ∧
      a.weekdays ≠ [] ∧ (∀ dia ∈ a.weekdays, 0 ≤ dia ∧ dia ≤ 6) ∧
      ∃ texto time, entrada.time = some texto ∧ lerHorario texto = some time ∧
        a.time = some time := by
  unfold validarAgendamento at accepted
  simp only [weekly, bind_eq_ok_iff, failIf_eq_ok_iff, orFail_eq_ok_iff, pure_eq_ok_iff,
    Prod.mk.injEq, not_or, not_exists, not_and, Int.not_lt] at accepted
  obtain ⟨_, ⟨nonempty, valid⟩, time, read, rfl, _⟩ := accepted
  obtain ⟨texto, sent, parsed⟩ := Option.bind_eq_some_iff.mp read
  exact ⟨rfl, fun dia => by simp, nonempty, valid, texto, time, sent, parsed, rfl⟩

/-- The next run of a weekly schedule is the least instant after another at which the clock of
Brasília shows one of its days and its time.  There is one within seven days. -/
theorem proximaExecucao_semanal {entrada : EntradaDoAgendamento} {agora : Int} {a : Agendamento}
    {primeira : Option Int} (weekly : entrada.kind = .weekly)
    (accepted : validarAgendamento entrada agora = .ok (a, primeira)) {t : Int}
    (clock : 3 * 60 * 60 * 1000 ≤ t) :
    ∃ texto time u, entrada.time = some texto ∧ lerHorario texto = some time ∧
      proximaExecucao a t = some u ∧
      IsLeast {v | t < v ∧ diaDaSemana (v + fusoMs) ∈ entrada.weekdays.getD [] ∧
        (v + fusoMs) % diaMs = time.ms} u ∧
      u ≤ t + 7 * diaMs := by
  obtain ⟨kind, same_days, nonempty, valid, texto, time, sent, parsed, at'⟩ :=
    validarAgendamento_semanal weekly accepted
  have first := proximaExecucao_primeira a (t := t) (by unfold fusoMs; omega)
  obtain ⟨dia, mem⟩ := List.exists_mem_of_ne_nil _ nonempty
  obtain ⟨v, run, after, near⟩ := exists_semanal mem (valid dia mem).1 (valid dia mem).2 time t
  have occurs := (ocorre_semanal_iff kind at').mpr run
  cases next : proximaExecucao a t with
  | none =>
      rw [next] at first
      exact absurd (first v occurs) (Int.not_le.mpr after)
  | some u =>
      rw [next] at first
      obtain ⟨occurs_u, after_u, least⟩ := first
      have run_u := (ocorre_semanal_iff kind at').mp occurs_u
      refine ⟨texto, time, u, sent, parsed, rfl, ⟨⟨after_u, ?_, run_u.hora⟩, ?_⟩, ?_⟩
      · exact (same_days _).mp run_u.dia
      · rintro w ⟨after_w, dia_w, hora_w⟩
        apply least w _ after_w
        exact (ocorre_semanal_iff kind at').mpr ⟨(same_days _).mpr dia_w, hora_w⟩
      · exact (least v occurs after).trans near

/-- Thursdays at noon: asked exactly then, the next run is a week later. -/
theorem proximaExecucao_semanal_thursday :
    ∃ texto time u, some "12:00" = some texto ∧ lerHorario texto = some time ∧
      proximaExecucao ⟨.weekly, none, [4], some ⟨12, 0⟩⟩ 54_000_000 = some u ∧
      IsLeast {v | 54_000_000 < v ∧ diaDaSemana (v + fusoMs) ∈ [4] ∧
        (v + fusoMs) % diaMs = time.ms} u ∧
      u ≤ 54_000_000 + 7 * diaMs := by
  have parsed : lerHorario "12:00" = some ⟨12, 0⟩ := by decide
  have accepted : validarAgendamento ⟨.weekly, none, some [4], some "12:00"⟩ 0 =
      .ok (⟨.weekly, none, [4], some ⟨12, 0⟩⟩, some 54_000_000) := by
    have next : proximaExecucao ⟨.weekly, none, [4], some ⟨12, 0⟩⟩ 0 = some 54_000_000 := by
      decide +kernel
    have read : orFail (some (⟨12, 0⟩ : Horario))
        (badRequest "Informe o horário do disparo semanal (HH:mm).") = .ok ⟨12, 0⟩ := rfl
    simp [validarAgendamento, bind_eq_ok_iff, failIf_eq_ok_iff, parsed, read, next]
  exact proximaExecucao_semanal rfl accepted (by decide)

end IccvBackend
