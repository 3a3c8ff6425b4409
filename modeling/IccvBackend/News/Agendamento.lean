/-
Module: IccvBackend.News.Agendamento
Purpose: The calendar of scheduled news (`agendamento.ts`): the next run of a schedule and the check
  of what the form sends.
Trusted boundary: human-reviewed spec
Main exports: Agendamento, proximaExecucao, validarAgendamento
-/
import IccvBackend.Prisma.Schema
import IccvBackend.Lib.Fallible
import Mathlib.Data.List.Dedup

namespace IccvBackend

open Lib

/-!
Instants are milliseconds since 1970 in UTC, of any size: a `Date` ends at 8.64e15 of them either
way, some 275 thousand years away, and is invalid past that.
-/

/-- `FUSO_MS`. -/
def fusoMs : Int := -3 * 60 * 60 * 1000

/-- `DIA_MS`. -/
def diaMs : Int := 24 * 60 * 60 * 1000

/-- `TOLERANCIA_DE_ATRASO_MS`. -/
def toleranciaDeAtrasoMs : Int := 60 * 60 * 1000

inductive NewsScheduleKind where
  | once
  | weekly
deriving Repr, DecidableEq

/-- A text that matches `HORARIO`, read as its two numbers. -/
structure Horario where
  hora : Fin 24
  minuto : Fin 60
deriving Repr, DecidableEq

/-- From midnight, in milliseconds. -/
def Horario.ms (h : Horario) : Int := (h.hora.val * 60 + h.minuto.val) * 60 * 1000

/-- `runAt` and `time` are null when absent; `weekdays` has 0 for Sunday. -/
structure Agendamento where
  kind : NewsScheduleKind
  runAt : Option Int
  weekdays : List Int
  time : Option Horario
deriving Repr, DecidableEq

/-- `getUTCDay`. -/
def diaDaSemana (t : Int) : Int := (t / diaMs + 4) % 7

/-- `proximaExecucao`: the first run strictly after an instant.  Without a time no candidate is a
date, and none is after anything. -/
def proximaExecucao (agendamento : Agendamento) (depoisDe : Int) : Option Int :=
  match agendamento.kind with
  | .once => agendamento.runAt.filter fun quando => depoisDe < quando
  | .weekly =>
      match agendamento.time with
      | none => none
      | some time =>
          let agoraLocal := depoisDe + fusoMs
          -- the remainder of a JavaScript `%` has the sign of the dividend
          let inicioDoDia := agoraLocal - agoraLocal.tmod diaMs - fusoMs
          let candidato := fun d : Nat => inicioDoDia + d * diaMs + time.ms
          ((List.range 8).find? fun d : Nat =>
              agendamento.weekdays.contains (diaDaSemana (inicioDoDia + d * diaMs - fusoMs)) &&
                depoisDe < candidato d).map candidato

/-- The next run is later than the instant it was asked for. -/
theorem lt_proximaExecucao {a : Agendamento} {t u : Int} (found : proximaExecucao a t = some u) :
    t < u := by
  unfold proximaExecucao at found
  split at found
  · obtain ⟨_, later⟩ := Option.filter_eq_some_iff.mp found
    exact of_decide_eq_true later
  · split at found
    · cases found
    · obtain ⟨d, first, rfl⟩ := Option.map_eq_some_iff.mp found
      have holds := List.find?_some first
      simp only [Bool.and_eq_true, decide_eq_true_eq] at holds
      exact holds.2

/-! ### `validarAgendamento` -/

structure EntradaDoAgendamento where
  kind : NewsScheduleKind
  runAt : Option Int
  weekdays : Option (List Int)
  time : Option String
deriving Repr, DecidableEq

def digito (c : Char) : Option Nat :=
  if c.isDigit then some (c.toNat - '0'.toNat) else none

/-- The texts that `HORARIO` accepts: two digits up to 23, a colon, two digits up to 59. -/
def lerHorario (texto : String) : Option Horario :=
  match texto.toList with
  | [a, b, ':', c, d] => do
      let hora := 10 * (← digito a) + (← digito b)
      let minuto := 10 * (← digito c) + (← digito d)
      if valid : hora < 24 ∧ minuto < 60 then some ⟨⟨hora, valid.1⟩, ⟨minuto, valid.2⟩⟩ else none
  | _ => none

/-- What is stored, with its first run. -/
def validarAgendamento (entrada : EntradaDoAgendamento) (agora : Int) :
    Except Failure (Agendamento × Option Int) :=
  match entrada.kind with
  | .once => do
      let runAt ← orFail entrada.runAt (badRequest "Informe a data e a hora do disparo.")
      failIf (runAt ≤ agora) (badRequest "O disparo agendado precisa ser numa data futura.")
      return (⟨.once, some runAt, [], none⟩, some runAt)
  | .weekly => do
      let weekdays := (entrada.weekdays.getD []).dedup.mergeSort
      failIf (weekdays = [] ∨ ∃ dia ∈ weekdays, dia < 0 ∨ 6 < dia)
        (badRequest "Escolha ao menos um dia da semana para o disparo semanal.")
      let time ← orFail (entrada.time.bind lerHorario)
        (badRequest "Informe o horário do disparo semanal (HH:mm).")
      let pronto : Agendamento := ⟨.weekly, none, weekdays, some time⟩
      return (pronto, proximaExecucao pronto agora)

end IccvBackend
