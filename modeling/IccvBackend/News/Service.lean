/-
Module: IccvBackend.News.Service
Purpose: Scheduled dispatch of news (`news.service.ts`): the rounds of the clock, each schedule in
  its own statements, and the calendar of what they will do.
Trusted boundary: human-reviewed spec
Main exports: NewsSchedule, RodadaDoRelogio, Noticiario, Noticiario.step, Noticiario.calendar
-/
import IccvBackend.News.Agendamento
import IccvBackend.Lib.Table
import Mathlib.Algebra.Order.Ring.Int

namespace IccvBackend

open Lib

structure NewsSchedule extends Agendamento where
  id : Id
  newsId : Id
  nextRunAt : Option Int
  lastRunAt : Option Int
deriving Repr, DecidableEq

/-- A news item, with `modulosDa` of the plan of its church. -/
structure News where
  id : Id
  title : String
  isPublished : Bool
  publishedAt : Option Int
  churchId : Option Id
  modulos : List ChurchModule
deriving Repr, DecidableEq

/-- What a round has read of a schedule that is due. -/
structure Vencido where
  agendamento : NewsSchedule
  marcado : Int
  news : News
deriving Repr, DecidableEq

/-- A dispatch that was started, and the round that did it. -/
structure Disparo where
  rodada : Nat
  scheduleId : Id
  marcado : Int
  newsId : Id
  agora : Int
deriving Repr, DecidableEq

/-- `dispararVencidos` between its statements. -/
inductive RodadaDoRelogio where
  | percorrendo (agora : Int) (vencidos : List Vencido) (disparadas : List Id)
  /-- about to update the news it dispatches -/
  | publicando (agora : Int) (vez : Vencido) (vencidos : List Vencido) (disparadas : List Id)
  /-- the update of the news failed -/
  | falhou
deriving Repr, DecidableEq

structure Noticiario where
  agendamentos : List NewsSchedule
  noticias : List News
  rodadas : List RodadaDoRelogio
  disparos : List Disparo

/-- `PERIODO_MAXIMO_DO_CALENDARIO_MS`. -/
def periodoMaximoDoCalendarioMs : Int := 62 * 24 * 60 * 60 * 1000

namespace Noticiario

variable (s : Noticiario)

/-! ### `dispararVencidos` -/

/-- The read of what is due. -/
def vencidos (agora : Int) : List Vencido :=
  s.agendamentos.filterMap fun agendamento => do
    let marcado ← agendamento.nextRunAt
    let news ← lookup News.id agendamento.newsId s.noticias
    if marcado ≤ agora then some ⟨agendamento, marcado, news⟩ else none

def atrasado (agora : Int) (vez : Vencido) : Bool :=
  toleranciaDeAtrasoMs < agora - vez.marcado

/-- The row is still the one the round has read. -/
def Marcado (vez : Vencido) (agendamento : NewsSchedule) : Prop :=
  agendamento.id = vez.agendamento.id ∧ agendamento.nextRunAt = some vez.marcado

instance (vez : Vencido) (agendamento : NewsSchedule) : Decidable (Marcado vez agendamento) :=
  inferInstanceAs (Decidable (_ ∧ _))

/-- The columns of the compare-and-set. -/
def avancado (agora : Int) (vez : Vencido) (agendamento : NewsSchedule) : NewsSchedule :=
  { agendamento with
    nextRunAt := proximaExecucao vez.agendamento.toAgendamento agora
    lastRunAt := if atrasado agora vez then agendamento.lastRunAt else some agora }

/-- `updateMany` of the schedule whose `nextRunAt` is still the one read. -/
def trocar (agora : Int) (vez : Vencido) : List NewsSchedule :=
  s.agendamentos.map fun agendamento =>
    if Marcado vez agendamento then avancado agora vez agendamento else agendamento

/-- The count of `updateMany`. -/
def trocou (vez : Vencido) : Bool := s.agendamentos.any fun agendamento => Marcado vez agendamento

/-- What follows a successful exchange: the news is dispatched, or it is not. -/
def dispara (agora : Int) (vez : Vencido) (disparadas : List Id) : Bool :=
  !atrasado agora vez && vez.news.isPublished &&
    (vez.news.churchId.isNone || vez.news.modulos.contains .news) &&
    !disparadas.contains vez.news.id

/-- One turn of the loop, up to the update of the news. -/
def volta (agora : Int) (vez : Vencido) (vencidos : List Vencido) (disparadas : List Id) :
    RodadaDoRelogio :=
  if s.trocou vez && dispara agora vez disparadas then
    .publicando agora vez vencidos (vez.news.id :: disparadas)
  else .percorrendo agora vencidos disparadas

/-- The update of the news: the publication is now the date of this dispatch. -/
def publicar (agora : Int) (newsId : Id) : List News :=
  updateKey News.id newsId (fun news => { news with publishedAt := some agora }) s.noticias

/-! ### `calendar` -/

structure Agendado where
  scheduleId : Id
  kind : NewsScheduleKind
  quando : Int
  newsId : Id
  title : String
deriving Repr, DecidableEq

/-- The loop of one schedule, from a run it has; it keeps those of the period. -/
def percorrer (agendamento : Agendamento) (de ate : Int) (quando : Int) (ocorrencias : List Int) :
    List Int :=
  if quando < ate ∧ ocorrencias.length < 100 then
    let ocorrencias := if de ≤ quando then ocorrencias ++ [quando] else ocorrencias
    match _proxima : proximaExecucao agendamento quando with
    | some quando' => percorrer agendamento de ate quando' ocorrencias
    | none => ocorrencias
  else ocorrencias
termination_by (ate - quando).toNat
decreasing_by
  have later := lt_proximaExecucao _proxima
  omega

/-- The runs of one schedule in the period. -/
def ocorrencias (agendamento : NewsSchedule) (de ate : Int) : List Int :=
  match agendamento.nextRunAt with
  | some quando => percorrer agendamento.toAgendamento de ate quando []
  | none => []

/-- `agendados` of `calendar`.  `daIgreja` is `recorteDaIgreja`. -/
def calendar (daIgreja : News → Bool) (de ate : Int) : Except Failure (List Agendado) := do
  failIf (ate ≤ de) (badRequest "Período inválido.")
  failIf (periodoMaximoDoCalendarioMs < ate - de)
    (badRequest "O período pode ter no máximo 62 dias.")
  let agendamentos := s.agendamentos.filterMap fun agendamento => do
    let news ← lookup News.id agendamento.newsId s.noticias
    if (agendamento.nextRunAt.any fun quando => quando < ate) && daIgreja news then
      some (agendamento, news)
    else none
  return (agendamentos.flatMap fun (agendamento, news) =>
    (ocorrencias agendamento de ate).map fun quando =>
      ⟨agendamento.id, agendamento.kind, quando, agendamento.newsId, news.title⟩).mergeSort
        fun p q => p.quando ≤ q.quando

/-! ### Runs -/

inductive Acao where
  /-- a round reads what is due -/
  | comecar (agora : Int)
  /-- the next statement of a round -/
  | avancar (i : Nat)
  /-- news are edited elsewhere -/
  | fora (noticias : List News)

/-- The next statement of a round. -/
def avancar (i : Nat) : RodadaDoRelogio → Noticiario
  | .percorrendo agora (vez :: vencidos) disparadas =>
      { s with
        agendamentos := s.trocar agora vez
        rodadas := s.rodadas.set i (s.volta agora vez vencidos disparadas) }
  | .publicando agora vez vencidos disparadas =>
      if (lookup News.id vez.news.id s.noticias).isSome then
        { s with
          noticias := s.publicar agora vez.news.id
          rodadas := s.rodadas.set i (.percorrendo agora vencidos disparadas)
          disparos := s.disparos ++
            [⟨i, vez.agendamento.id, vez.marcado, vez.news.id, agora⟩] }
      else { s with rodadas := s.rodadas.set i .falhou }
  | _ => s

def step : Acao → Noticiario
  | .comecar agora => { s with rodadas := s.rodadas ++ [.percorrendo agora (s.vencidos agora) []] }
  | .avancar i =>
      match s.rodadas[i]? with
      | some rodada => s.avancar i rodada
      | none => s
  | .fora noticias => { s with noticias := noticias }

end Noticiario

end IccvBackend
