/-
Module: IccvBackend.Proofs.ScheduledDispatch
Purpose: What the rounds of the clock dispatch when any number of them overlap.
Trusted boundary: none
Main exports: Noticiario.UmaVez, Noticiario.UmSo, Noticiario.ConsumoCerto, Noticiario.MesmaRodada,
  Noticiario.agendados_run
-/
import IccvBackend.News.Service
import IccvBackend.Proofs.Schedules
import IccvBackend.Lib.Transitions
import IccvBackend.Lib.Tasks

namespace IccvBackend

open Lib

namespace Noticiario

/-! ### Occurrences consumed -/

/-- A round that exchanged the `nextRunAt` it had read. -/
structure Consumo where
  rodada : Nat
  vez : Vencido
  agora : Int

/-- The occurrence that a step consumes. -/
def consumo? (s : Noticiario) : Acao → Option Consumo
  | .avancar i =>
      match s.rodadas[i]? with
      | some (.percorrendo agora (vez :: _) _) =>
          if s.trocou vez then some ⟨i, vez, agora⟩ else none
      | _ => none
  | _ => none

def lembrar (h : List Consumo) (s : Noticiario) (acao : Acao) (_ : Noticiario) : List Consumo :=
  h ++ (consumo? s acao).toList

/-! ### The laws -/

/-- An occurrence is dispatched once at most, and not later than the tolerance. -/
structure UmaVez (s : Noticiario) : Prop where
  porOcorrencia : (s.disparos.map fun d => (d.scheduleId, d.marcado)).Nodup
  noPrazo : ∀ d ∈ s.disparos, d.agora - d.marcado ≤ toleranciaDeAtrasoMs

/-- The minute of an instant. -/
def minuto (t : Int) : Int := t / (60 * 1000)

/-- Schedules of one news that are due in the same minute start one dispatch. -/
def UmaPorMinuto (s : Noticiario) : Prop :=
  ∀ d ∈ s.disparos, ∀ e ∈ s.disparos, d.newsId = e.newsId → minuto d.marcado = minuto e.marcado →
    d = e

/-- What a round has read of the news lets it go out. -/
def publicavel (vez : Vencido) : Bool :=
  vez.news.isPublished && (vez.news.churchId.isNone || vez.news.modulos.contains .news)

/-- The round is about to dispatch the news, or its update of a news failed. -/
def Publicando (newsId : Id) : RodadaDoRelogio → Prop
  | .percorrendo _ _ _ => False
  | .publicando _ vez _ _ => vez.news.id = newsId
  | .falhou => True

/-- An occurrence consumed in time, of news that may go out, has one dispatch in all among those of
its round and those of the news in its minute; or its round is at it, or failed. -/
def UmSo (sh : Noticiario × List Consumo) : Prop :=
  ∀ c ∈ sh.2, atrasado c.agora c.vez = false → publicavel c.vez = true →
    (∃ rodada, sh.1.rodadas[c.rodada]? = some rodada ∧ Publicando c.vez.news.id rodada) ∨
      ∃! d, d ∈ sh.1.disparos ∧ d.newsId = c.vez.news.id ∧
        (d.rodada = c.rodada ∨ minuto d.marcado = minuto c.vez.marcado)

/-- The same, of the dispatches of its round only. -/
def UmDaRodada (sh : Noticiario × List Consumo) : Prop :=
  ∀ c ∈ sh.2, atrasado c.agora c.vez = false → publicavel c.vez = true →
    (∃ rodada, sh.1.rodadas[c.rodada]? = some rodada ∧ Publicando c.vez.news.id rodada) ∨
      ∃! d, d ∈ sh.1.disparos ∧ d.newsId = c.vez.news.id ∧ d.rodada = c.rodada

/-- The round that consumes an occurrence sets the first one after its own instant. -/
def ConsumoCerto (s : Noticiario) (acao : Acao) : Prop :=
  ∀ c, consumo? s acao = some c → ∀ row ∈ s.agendamentos, Marcado c.vez row →
    ∃ row' ∈ (s.step acao).agendamentos, row'.id = row.id ∧
      row'.toAgendamento = row.toAgendamento ∧
        Agendamento.Primeira row.toAgendamento c.agora row'.nextRunAt

/-- Rounds run after the first three hours of 1970. -/
def NoRelogio : Acao → Prop
  | .comecar agora => 0 ≤ agora + fusoMs
  | _ => True

/-- The occurrences of one news in one minute that are consumed in time are consumed by one
round. -/
def MesmaRodada (sh : Noticiario × List Consumo) (acao : Acao) : Prop :=
  ∀ c, consumo? sh.1 acao = some c → ∀ e ∈ sh.2, atrasado c.agora c.vez = false →
    atrasado e.agora e.vez = false → c.vez.news.id = e.vez.news.id →
      minuto c.vez.marcado = minuto e.vez.marcado → c.rodada = e.rodada

/-! ### The invariant -/

variable {s : Noticiario} {h : List Consumo}

/-- What a round has read is due, and the schedule is still what it was. -/
def Lido (s : Noticiario) (agora : Int) (vez : Vencido) : Prop :=
  vez.marcado ≤ agora ∧ ∀ row ∈ s.agendamentos, row.id = vez.agendamento.id →
    row.toAgendamento = vez.agendamento.toAgendamento

def RodadaCerta (s : Noticiario) (h : List Consumo) (i : Nat) : RodadaDoRelogio → Prop
  | .percorrendo agora vencidos disparadas =>
      0 ≤ agora + fusoMs ∧ (∀ vez ∈ vencidos, Lido s agora vez) ∧
        ∀ d ∈ s.disparos, d.rodada = i → d.newsId ∈ disparadas
  | .publicando agora vez vencidos disparadas =>
      0 ≤ agora + fusoMs ∧ (∀ vez ∈ vencidos, Lido s agora vez) ∧
        (∀ d ∈ s.disparos, d.rodada = i → d.newsId ∈ disparadas ∧ d.newsId ≠ vez.news.id) ∧
        vez.news.id ∈ disparadas ∧ ⟨i, vez, agora⟩ ∈ h ∧ atrasado agora vez = false ∧
        ∀ d ∈ s.disparos, (d.scheduleId, d.marcado) ≠ (vez.agendamento.id, vez.marcado)
  | .falhou => True

/-- A dispatch comes from an occurrence that its round consumed in time. -/
def DisparoCerto (s : Noticiario) (h : List Consumo) (d : Disparo) : Prop :=
  d.rodada < s.rodadas.length ∧ ∃ c ∈ h, c.rodada = d.rodada ∧ c.agora = d.agora ∧
    c.vez.agendamento.id = d.scheduleId ∧ c.vez.marcado = d.marcado ∧ c.vez.news.id = d.newsId ∧
      atrasado c.agora c.vez = false

structure EmOrdemDeDisparo (sh : Noticiario × List Consumo) : Prop where
  ids : (sh.1.agendamentos.map NewsSchedule.id).Nodup
  consumidos : ∀ c ∈ sh.2, ∀ row ∈ sh.1.agendamentos, row.id = c.vez.agendamento.id →
    ∀ u, row.nextRunAt = some u → c.vez.marcado < u
  umConsumo : (sh.2.map fun c => (c.vez.agendamento.id, c.vez.marcado)).Nodup
  rodadas : ∀ (i : Nat) rodada, sh.1.rodadas[i]? = some rodada → RodadaCerta sh.1 sh.2 i rodada
  disparos : ∀ d ∈ sh.1.disparos, DisparoCerto sh.1 sh.2 d
  porOcorrencia : (sh.1.disparos.map fun d => (d.scheduleId, d.marcado)).Nodup
  porRodada : ∀ d ∈ sh.1.disparos, ∀ e ∈ sh.1.disparos, d.rodada = e.rodada →
    d.newsId = e.newsId → d = e

theorem EmOrdemDeDisparo.umaVez {sh : Noticiario × List Consumo} (ordem : EmOrdemDeDisparo sh) :
    UmaVez sh.1 := by
  refine ⟨ordem.porOcorrencia, fun d mem => ?_⟩
  obtain ⟨_, c, _, _, agora, _, marcado, _, onTime⟩ := ordem.disparos d mem
  have late := of_decide_eq_false onTime
  rw [agora, marcado] at late
  exact Int.not_lt.mp late

/-! ### The exchange -/

theorem mem_trocar {agora : Int} {vez : Vencido} {row' : NewsSchedule}
    (mem : row' ∈ s.trocar agora vez) :
    ∃ row ∈ s.agendamentos, row'.id = row.id ∧ row'.toAgendamento = row.toAgendamento ∧
      ((Marcado vez row ∧ row' = avancado agora vez row) ∨ (¬ Marcado vez row ∧ row' = row)) := by
  obtain ⟨row, old, rfl⟩ := List.mem_map.mp mem
  refine ⟨row, old, ?_⟩
  by_cases marked : Marcado vez row
  · rw [if_pos marked]
    exact ⟨rfl, rfl, .inl ⟨marked, rfl⟩⟩
  · rw [if_neg marked]
    exact ⟨rfl, rfl, .inr ⟨marked, rfl⟩⟩

theorem map_id_trocar (agora : Int) (vez : Vencido) :
    (s.trocar agora vez).map NewsSchedule.id = s.agendamentos.map NewsSchedule.id := by
  rw [trocar, List.map_map]
  refine List.map_congr_left fun row _ => ?_
  simp only [Function.comp]
  split <;> rfl

theorem trocou_iff {vez : Vencido} :
    s.trocou vez = true ↔ ∃ row ∈ s.agendamentos, Marcado vez row := by
  simp [trocou]

/-- A step of a round leaves what the others have read. -/
theorem Lido.trocar {agora agora' : Int} {vez outra : Vencido} (lido : Lido s agora' outra)
    {s' : Noticiario} (is : s'.agendamentos = s.trocar agora vez) : Lido s' agora' outra := by
  refine ⟨lido.1, fun row' mem same => ?_⟩
  rw [is] at mem
  obtain ⟨row, old, id, content, _⟩ := mem_trocar mem
  rw [content]
  exact lido.2 row old (id.symm.trans same)

/-- A round that did not move stays right while the others read, exchange and dispatch. -/
theorem RodadaCerta.depois {s' : Noticiario} {h' : List Consumo} {j : Nat}
    {rodada : RodadaDoRelogio} (certa : RodadaCerta s h j rodada)
    (lidos : ∀ agora vez, Lido s agora vez → Lido s' agora vez) (hist : ∀ c ∈ h, c ∈ h')
    (disparos : ∀ d ∈ s'.disparos, d ∈ s.disparos ∨ d.rodada ≠ j ∧ ∀ agora vez,
      (⟨j, vez, agora⟩ : Consumo) ∈ h →
        (d.scheduleId, d.marcado) ≠ (vez.agendamento.id, vez.marcado)) :
    RodadaCerta s' h' j rodada := by
  cases rodada with
  | percorrendo agora vencidos disparadas =>
      obtain ⟨clock, read, sent⟩ := certa
      refine ⟨clock, fun vez mem => lidos agora vez (read vez mem), fun d mem own => ?_⟩
      rcases disparos d mem with old | ⟨other, _⟩
      · exact sent d old own
      · exact absurd own other
  | publicando agora vez vencidos disparadas =>
      obtain ⟨clock, read, sent, marked, consumed, onTime, single⟩ := certa
      refine ⟨clock, fun v mem => lidos agora v (read v mem), fun d mem own => ?_, marked,
        hist _ consumed, onTime, fun d mem => ?_⟩
      · rcases disparos d mem with old | ⟨other, _⟩
        · exact sent d old own
        · exact absurd own other
      · rcases disparos d mem with old | ⟨_, apart⟩
        · exact single d old
        · exact apart agora vez consumed
  | falhou => trivial

theorem DisparoCerto.depois {s' : Noticiario} {h' : List Consumo} {d : Disparo}
    (certo : DisparoCerto s h d) (rodadas : s.rodadas.length ≤ s'.rodadas.length)
    (hist : ∀ c ∈ h, c ∈ h') : DisparoCerto s' h' d := by
  obtain ⟨below, c, mem, rest⟩ := certo
  exact ⟨below.trans_le rodadas, c, hist c mem, rest⟩

/-- The rounds after one of them has moved. -/
theorem rodadas_set {s' : Noticiario} {h' : List Consumo} (ordem : EmOrdemDeDisparo (s, h))
    {i : Nat} {rodada : RodadaDoRelogio} (is : s'.rodadas = s.rodadas.set i rodada)
    (moved : RodadaCerta s' h' i rodada)
    (lidos : ∀ agora vez, Lido s agora vez → Lido s' agora vez) (hist : ∀ c ∈ h, c ∈ h')
    (disparos : ∀ d ∈ s'.disparos, d ∈ s.disparos ∨ d.rodada = i ∧ ∀ j, j ≠ i → ∀ agora vez,
      (⟨j, vez, agora⟩ : Consumo) ∈ h →
        (d.scheduleId, d.marcado) ≠ (vez.agendamento.id, vez.marcado)) :
    ∀ (j : Nat) outra, s'.rodadas[j]? = some outra → RodadaCerta s' h' j outra := by
  intro j outra call
  rw [is] at call
  rcases getElem?_moved call with ⟨rfl, rfl⟩ | ⟨here, was⟩
  · exact moved
  · refine (ordem.rodadas j outra was).depois lidos hist fun d mem => ?_
    rcases disparos d mem with old | ⟨own, apart⟩
    · exact .inl old
    · exact .inr ⟨fun same => here (same.symm.trans own), apart j here⟩

section Volta

variable {i : Nat} {agora : Int} {vez : Vencido} {vencidos : List Vencido} {disparadas : List Id}

/-- A consumed occurrence does not come back. -/
theorem EmOrdemDeDisparo.inedito (ordem : EmOrdemDeDisparo (s, h)) (changed : s.trocou vez = true) :
    ∀ c ∈ h, (c.vez.agendamento.id, c.vez.marcado) ≠ (vez.agendamento.id, vez.marcado) := by
  intro c mem same
  obtain ⟨row, old, id, next⟩ := trocou_iff.mp changed
  obtain ⟨sameId, sameMark⟩ := Prod.mk.inj same
  have later := ordem.consumidos c mem row old (id.trans sameId.symm) _ next
  exact absurd later (sameMark ▸ Int.lt_irrefl _)

theorem EmOrdemDeDisparo.volta (ordem : EmOrdemDeDisparo (s, h))
    (call : s.rodadas[i]? = some (.percorrendo agora (vez :: vencidos) disparadas)) :
    EmOrdemDeDisparo ({ s with
        agendamentos := s.trocar agora vez
        rodadas := s.rodadas.set i (s.volta agora vez vencidos disparadas) },
      h ++ (if s.trocou vez then [⟨i, vez, agora⟩] else [])) := by
  obtain ⟨clock, read, sent⟩ := ordem.rodadas i _ call
  have due := (read vez List.mem_cons_self).1
  have hist : ∀ c ∈ h, c ∈ h ++ (if s.trocou vez then [⟨i, vez, agora⟩] else []) :=
    fun c mem => List.mem_append_left _ mem
  have new : ∀ c ∈ h ++ (if s.trocou vez then [(⟨i, vez, agora⟩ : Consumo)] else []),
      c ∈ h ∨ s.trocou vez = true ∧ c = ⟨i, vez, agora⟩ := by
    intro c mem
    rcases List.mem_append.mp mem with old | own
    · exact .inl old
    · split at own
      · next changed => exact .inr ⟨changed, List.mem_singleton.mp own⟩
      · cases own
  have rest : ∀ v ∈ vencidos, Lido { s with
      agendamentos := s.trocar agora vez
      rodadas := s.rodadas.set i (s.volta agora vez vencidos disparadas) } agora v := fun v mem =>
    (read v (List.mem_cons_of_mem _ mem)).trocar rfl
  refine
    { ids := by rw [map_id_trocar]; exact ordem.ids
      consumidos := fun c mem row' mem' same u next => ?_
      umConsumo := ?_
      rodadas := rodadas_set ordem rfl ?_ (fun _ _ lido => lido.trocar rfl) hist fun d mem =>
        .inl mem
      disparos := fun d mem => (ordem.disparos d mem).depois (by rw [List.length_set]) hist
      porOcorrencia := ordem.porOcorrencia
      porRodada := ordem.porRodada }
  · obtain ⟨row, old, id, _, ⟨marked, rfl⟩ | ⟨unmarked, rfl⟩⟩ := mem_trocar mem'
    · -- the new date is after the round, and the round is after what it consumed
      have later : agora < u := lt_proximaExecucao next
      rcases new c mem with before | ⟨_, rfl⟩
      · have mark := ordem.consumidos c before row old (id.symm.trans same) _ marked.2
        omega
      · exact Int.lt_of_le_of_lt due later
    · rcases new c mem with before | ⟨_, rfl⟩
      · exact ordem.consumidos c before row' old same u next
      · obtain ⟨row, old', marked⟩ := trocou_iff.mp ‹_›
        have one : row = row' := List.inj_on_of_nodup_map ordem.ids old' old
          (marked.1.trans same.symm)
        exact absurd (one ▸ marked) unmarked
  · split
    · next changed =>
        rw [List.map_append, List.nodup_append]
        refine ⟨ordem.umConsumo, by simp, fun key mem other own same => ?_⟩
        obtain ⟨c, before, rfl⟩ := List.mem_map.mp mem
        obtain rfl := List.mem_singleton.mp own
        exact ordem.inedito changed c before same
    · rw [List.append_nil]
      exact ordem.umConsumo
  · rw [Noticiario.volta]
    split
    · next goes =>
        obtain ⟨changed, sends⟩ := Bool.and_eq_true_iff.mp goes
        simp only [dispara, Bool.and_eq_true, Bool.not_eq_true', List.contains_eq_mem,
          decide_eq_false_iff_not] at sends
        obtain ⟨⟨⟨onTime, _⟩, _⟩, absent⟩ := sends
        refine ⟨clock, rest, fun d mem own => ?_, List.mem_cons_self, ?_, onTime, fun d mem => ?_⟩
        · have had := sent d mem own
          exact ⟨List.mem_cons_of_mem _ had, fun same => absent (same ▸ had)⟩
        · rw [if_pos changed]
          exact List.mem_append_right _ (List.mem_singleton.mpr rfl)
        · obtain ⟨_, c, before, _, _, id, mark, _, _⟩ := ordem.disparos d mem
          rw [← id, ← mark]
          exact ordem.inedito changed c before
    · exact ⟨clock, rest, sent⟩

theorem EmOrdemDeDisparo.publicou (ordem : EmOrdemDeDisparo (s, h))
    (call : s.rodadas[i]? = some (.publicando agora vez vencidos disparadas)) :
    EmOrdemDeDisparo ({ s with
        noticias := s.publicar agora vez.news.id
        rodadas := s.rodadas.set i (.percorrendo agora vencidos disparadas)
        disparos := s.disparos ++
          [⟨i, vez.agendamento.id, vez.marcado, vez.news.id, agora⟩] }, h) := by
  obtain ⟨clock, read, sent, marked, consumed, onTime, single⟩ := ordem.rodadas i _ call
  have inside : i < s.rodadas.length := (List.getElem?_eq_some_iff.mp call).1
  have own : ∀ d ∈ s.disparos ++ [(⟨i, vez.agendamento.id, vez.marcado, vez.news.id, agora⟩ :
      Disparo)], d ∈ s.disparos ∨ d = ⟨i, vez.agendamento.id, vez.marcado, vez.news.id, agora⟩ :=
    fun d mem => (List.mem_append.mp mem).imp id List.mem_singleton.mp
  refine
    { ids := ordem.ids
      consumidos := ordem.consumidos
      umConsumo := ordem.umConsumo
      rodadas := rodadas_set ordem rfl ⟨clock, read, fun d mem here => ?_⟩ (fun _ _ lido => lido)
        (fun _ mem => mem) fun d mem => ?_
      disparos := fun d mem => ?_
      porOcorrencia := ?_
      porRodada := fun d mem e mem' round news => ?_ }
  · rcases own d mem with old | rfl
    · exact (sent d old here).1
    · exact marked
  · rcases own d mem with old | rfl
    · exact .inl old
    · refine .inr ⟨rfl, fun j apart agora' outra other same => apart ?_⟩
      have both := List.inj_on_of_nodup_map ordem.umConsumo consumed other same
      exact congrArg Consumo.rodada both.symm
  · rcases own d mem with old | rfl
    · exact (ordem.disparos d old).depois (by rw [List.length_set]) fun _ mem => mem
    · exact ⟨by rw [List.length_set]; exact inside, _, consumed, rfl, rfl, rfl, rfl, rfl, onTime⟩
  · rw [List.map_append, List.nodup_append]
    refine ⟨ordem.porOcorrencia, by simp, fun key mem other last same => ?_⟩
    obtain ⟨d, old, rfl⟩ := List.mem_map.mp mem
    obtain rfl := List.mem_singleton.mp last
    exact single d old same
  · rcases own d mem with old | rfl <;> rcases own e mem' with old' | rfl
    · exact ordem.porRodada d old e old' round news
    · exact absurd news (sent d old round).2
    · exact absurd news.symm (sent e old' round.symm).2
    · rfl

end Volta

/-- Another round reads what is due. -/
theorem EmOrdemDeDisparo.comecou (ordem : EmOrdemDeDisparo (s, h)) {agora : Int}
    (clock : 0 ≤ agora + fusoMs) :
    EmOrdemDeDisparo ({ s with
      rodadas := s.rodadas ++ [.percorrendo agora (s.vencidos agora) []] }, h) := by
  refine
    { ids := ordem.ids
      consumidos := ordem.consumidos
      umConsumo := ordem.umConsumo
      rodadas := fun j rodada call => ?_
      disparos := fun d mem => (ordem.disparos d mem).depois (by simp) fun _ mem => mem
      porOcorrencia := ordem.porOcorrencia
      porRodada := ordem.porRodada }
  have old : ∀ rodada, RodadaCerta s h j rodada → RodadaCerta { s with
      rodadas := s.rodadas ++ [.percorrendo agora (s.vencidos agora) []] } h j rodada :=
    fun rodada certa => certa.depois (fun _ _ lido => lido) (fun _ mem => mem) fun d mem => .inl mem
  rcases getElem?_begun call with was | ⟨rfl, rfl⟩
  · exact old rodada (ordem.rodadas j rodada was)
  · refine ⟨clock, fun vez mem => ?_, fun d mem round => ?_⟩
    · obtain ⟨row, row_mem, is⟩ := List.mem_filterMap.mp mem
      simp only [Option.bind_eq_bind, Option.bind_eq_some_iff] at is
      obtain ⟨marcado, next, news, found, is⟩ := is
      split at is
      · next due =>
          obtain rfl := Option.some.inj is
          refine ⟨due, fun other other_mem same => ?_⟩
          rw [List.inj_on_of_nodup_map ordem.ids other_mem row_mem same]
      · cases is
    · exact absurd (ordem.disparos d mem).1 (round ▸ Nat.lt_irrefl _)

/-! ### Steps and runs -/

theorem EmOrdemDeDisparo.step {sh : Noticiario × List Consumo} {acao : Acao}
    (ordem : EmOrdemDeDisparo sh) (relogio : NoRelogio acao) :
    EmOrdemDeDisparo (withHistory Noticiario.step lembrar sh acao) := by
  obtain ⟨s, h⟩ := sh
  rw [withHistory]
  cases acao with
  | comecar agora =>
      have none : lembrar h s (.comecar agora) (s.step (.comecar agora)) = h := List.append_nil h
      rw [none]
      exact ordem.comecou relogio
  | fora noticias =>
      have none : lembrar h s (.fora noticias) (s.step (.fora noticias)) = h := List.append_nil h
      rw [none]
      exact ⟨ordem.ids, ordem.consumidos, ordem.umConsumo,
        fun j rodada call => (ordem.rodadas j rodada call).depois (fun _ _ lido => lido)
          (fun _ mem => mem) fun d mem => .inl mem, ordem.disparos, ordem.porOcorrencia,
        ordem.porRodada⟩
  | avancar i =>
      cases call : s.rodadas[i]? with
      | none => simpa [Noticiario.step, lembrar, consumo?, call] using ordem
      | some rodada =>
          cases rodada with
          | percorrendo agora vencidos disparadas =>
              cases vencidos with
              | nil => simpa [Noticiario.step, avancar, lembrar, consumo?, call] using ordem
              | cons vez vencidos =>
                  have after := ordem.volta call
                  have consumed : (consumo? s (.avancar i)).toList =
                      if s.trocou vez then [⟨i, vez, agora⟩] else [] := by
                    simp only [consumo?, call]
                    split <;> rfl
                  simpa only [Noticiario.step, avancar, lembrar, consumed, call] using after
          | publicando agora vez vencidos disparadas =>
              have none : (consumo? s (.avancar i)).toList = [] := by
                simp only [consumo?, call, Option.toList_none]
              simp only [Noticiario.step, avancar, lembrar, none, call, List.append_nil]
              split
              · exact ordem.publicou call
              · exact ⟨ordem.ids, ordem.consumidos, ordem.umConsumo,
                  rodadas_set ordem rfl (show RodadaCerta _ _ i .falhou from trivial)
                    (fun _ _ lido => lido) (fun _ mem => mem) fun d mem => .inl mem,
                  fun d mem => (ordem.disparos d mem).depois (by rw [List.length_set])
                    fun _ mem => mem, ordem.porOcorrencia, ordem.porRodada⟩
          | falhou => simpa [Noticiario.step, avancar, lembrar, consumo?, call] using ordem

theorem EmOrdemDeDisparo.consumoCerto {sh : Noticiario × List Consumo}
    (ordem : EmOrdemDeDisparo sh) (acao : Acao) : ConsumoCerto sh.1 acao := by
  intro c consumed row mem marked
  cases acao with
  | comecar agora => cases consumed
  | fora noticias => cases consumed
  | avancar i =>
      rw [consumo?] at consumed
      split at consumed
      · next agora vez vencidos disparadas call =>
          split at consumed
          · obtain rfl := Option.some.inj consumed
            obtain ⟨clock, read, _⟩ := ordem.rodadas i _ call
            have same := (read vez List.mem_cons_self).2 row mem marked.1
            refine ⟨avancado agora vez row, ?_, rfl, rfl, ?_⟩
            · simp only [Noticiario.step, call, avancar]
              exact List.mem_map.mpr ⟨row, mem, if_pos marked⟩
            · rw [same]
              exact proximaExecucao_primeira _ clock
          · cases consumed
      · cases consumed

/-- The occurrences of one news in one minute that were consumed in time are of one round. -/
def PorMinuto (sh : Noticiario × List Consumo) : Prop :=
  ∀ c ∈ sh.2, ∀ e ∈ sh.2, atrasado c.agora c.vez = false → atrasado e.agora e.vez = false →
    c.vez.news.id = e.vez.news.id → minuto c.vez.marcado = minuto e.vez.marcado →
      c.rodada = e.rodada

theorem PorMinuto.step {sh : Noticiario × List Consumo} {acao : Acao} (um : PorMinuto sh)
    (mesma : MesmaRodada sh acao) : PorMinuto (withHistory Noticiario.step lembrar sh acao) := by
  obtain ⟨s, h⟩ := sh
  intro c mem e mem' onTime onTime' news minute
  rcases List.mem_append.mp mem with old | new <;> rcases List.mem_append.mp mem' with old' | new'
  · exact um c old e old' onTime onTime' news minute
  · exact (mesma e (Option.mem_toList.mp new') c old onTime' onTime news.symm minute.symm).symm
  · exact mesma c (Option.mem_toList.mp new) e old' onTime onTime' news minute
  · rw [Option.some.inj ((Option.mem_toList.mp new).symm.trans (Option.mem_toList.mp new'))]

/-- One round dispatches a news once. -/
theorem EmOrdemDeDisparo.umaPorMinuto {sh : Noticiario × List Consumo}
    (ordem : EmOrdemDeDisparo sh) (um : PorMinuto sh) : UmaPorMinuto sh.1 := by
  intro d mem e mem' news minute
  obtain ⟨_, c, own, round, _, _, mark, item, onTime⟩ := ordem.disparos d mem
  obtain ⟨_, c', own', round', _, _, mark', item', onTime'⟩ := ordem.disparos e mem'
  refine ordem.porRodada d mem e mem' ?_ news
  rw [← round, ← round']
  exact um c own c' own' onTime onTime' (by rw [item, item', news]) (by rw [mark, mark', minute])

/-! ### No occurrence goes without its dispatch -/

/-- A news that a round keeps was dispatched by it, or is about to be. -/
def DisparadasCertas (s : Noticiario) (i : Nat) : RodadaDoRelogio → Prop
  | .percorrendo _ _ disparadas =>
      ∀ newsId ∈ disparadas, ∃ d ∈ s.disparos, d.newsId = newsId ∧ d.rodada = i
  | .publicando _ vez _ disparadas =>
      ∀ newsId ∈ disparadas,
        newsId = vez.news.id ∨ ∃ d ∈ s.disparos, d.newsId = newsId ∧ d.rodada = i
  | .falhou => True

/-- The dispatch of an occurrence, made or about to be. -/
def Sai (s : Noticiario) (c : Consumo) : Prop :=
  (∃ rodada, s.rodadas[c.rodada]? = some rodada ∧ Publicando c.vez.news.id rodada) ∨
    ∃ d ∈ s.disparos, d.newsId = c.vez.news.id ∧ d.rodada = c.rodada

structure TudoSai (sh : Noticiario × List Consumo) : Prop where
  disparadas : ∀ (i : Nat) rodada, sh.1.rodadas[i]? = some rodada → DisparadasCertas sh.1 i rodada
  saem : ∀ c ∈ sh.2, atrasado c.agora c.vez = false → publicavel c.vez = true → Sai sh.1 c

theorem DisparadasCertas.depois {s' : Noticiario} {j : Nat} {rodada : RodadaDoRelogio}
    (certas : DisparadasCertas s j rodada) (disparos : ∀ d ∈ s.disparos, d ∈ s'.disparos) :
    DisparadasCertas s' j rodada := by
  have kept : ∀ newsId, (∃ d ∈ s.disparos, d.newsId = newsId ∧ d.rodada = j) →
      ∃ d ∈ s'.disparos, d.newsId = newsId ∧ d.rodada = j :=
    fun newsId ⟨d, mem, rest⟩ => ⟨d, disparos d mem, rest⟩
  cases rodada with
  | percorrendo agora vencidos disparadas => exact fun newsId mem => kept newsId (certas newsId mem)
  | publicando agora vez vencidos disparadas =>
      exact fun newsId mem => (certas newsId mem).imp id (kept newsId)
  | falhou => trivial

/-- One round has moved: what it consumed before still has its dispatch. -/
theorem TudoSai.moveu {s' : Noticiario} (tudo : TudoSai (s, h)) {i : Nat}
    {antes depois : RodadaDoRelogio} (call : s.rodadas[i]? = some antes)
    (is : s'.rodadas = s.rodadas.set i depois) (disparos : ∀ d ∈ s.disparos, d ∈ s'.disparos)
    (certas : DisparadasCertas s' i depois)
    (saiu : ∀ newsId, Publicando newsId antes →
      Publicando newsId depois ∨ ∃ d ∈ s'.disparos, d.newsId = newsId ∧ d.rodada = i) :
    TudoSai (s', h) where
  disparadas j rodada there := by
    rw [is] at there
    rcases getElem?_moved there with ⟨rfl, rfl⟩ | ⟨_, was⟩
    · exact certas
    · exact (tudo.disparadas j rodada was).depois disparos
  saem c mem onTime out := by
    rcases tudo.saem c mem onTime out with ⟨rodada, there, at_it⟩ | ⟨d, made, rest⟩
    · by_cases own : c.rodada = i
      · rw [own] at there
        obtain rfl := Option.some.inj (call.symm.trans there)
        rcases saiu _ at_it with still | ⟨d, made, news, round⟩
        · have inside : i < s.rodadas.length := (List.getElem?_eq_some_iff.mp call).1
          exact .inl ⟨depois, by rw [own, is, List.getElem?_set_self inside], still⟩
        · exact .inr ⟨d, made, news, round.trans own.symm⟩
      · exact .inl ⟨rodada, by rw [is, List.getElem?_set_ne (Ne.symm own)]; exact there, at_it⟩
    · exact .inr ⟨d, disparos d made, rest⟩

/-- The turn of an occurrence: it is dispatched next, or was not to be, or the news was already. -/
theorem TudoSai.volta {i : Nat} {agora : Int} {vez : Vencido} {vencidos : List Vencido}
    {disparadas : List Id} (tudo : TudoSai (s, h))
    (call : s.rodadas[i]? = some (.percorrendo agora (vez :: vencidos) disparadas)) :
    TudoSai ({ s with
        agendamentos := s.trocar agora vez
        rodadas := s.rodadas.set i (s.volta agora vez vencidos disparadas) },
      h ++ (if s.trocou vez then [⟨i, vez, agora⟩] else [])) := by
  have known := tudo.disparadas i _ call
  have inside : i < s.rodadas.length := (List.getElem?_eq_some_iff.mp call).1
  have before : TudoSai ({ s with
      agendamentos := s.trocar agora vez
      rodadas := s.rodadas.set i (s.volta agora vez vencidos disparadas) }, h) := by
    refine tudo.moveu call rfl (fun _ mem => mem) ?_ fun newsId at_it => at_it.elim
    rw [Noticiario.volta]
    split
    · intro newsId mem
      exact (List.mem_cons.mp mem).imp id (known newsId)
    · exact known
  refine ⟨before.disparadas, fun c mem onTime out => ?_⟩
  rcases List.mem_append.mp mem with old | own
  · exact before.saem c old onTime out
  · split at own
    · next changed =>
        obtain rfl := List.mem_singleton.mp own
        by_cases sent : vez.news.id ∈ disparadas
        · exact .inr (known _ sent)
        · have sends : (s.trocou vez && dispara agora vez disparadas) = true := by
            have absent : disparadas.contains vez.news.id = false := by simpa using sent
            have goes : (dispara agora vez disparadas) =
                (!atrasado agora vez && publicavel vez && !disparadas.contains vez.news.id) := by
              rw [dispara, publicavel, Bool.and_assoc (!atrasado agora vez)]
            rw [changed, goes, onTime, out, absent]
            rfl
          refine .inl ⟨_, List.getElem?_set_self inside, ?_⟩
          rw [Noticiario.volta, if_pos sends]
          rfl
    · cases own

theorem TudoSai.step {sh : Noticiario × List Consumo} (tudo : TudoSai sh) (acao : Acao) :
    TudoSai (withHistory Noticiario.step lembrar sh acao) := by
  obtain ⟨s, h⟩ := sh
  rw [withHistory]
  cases acao with
  | comecar agora =>
      have none : lembrar h s (.comecar agora) (s.step (.comecar agora)) = h := List.append_nil h
      rw [none]
      refine ⟨fun j rodada call => ?_, fun c mem onTime out => ?_⟩
      · rcases getElem?_begun call with old | ⟨_, rfl⟩
        · exact tudo.disparadas j rodada old
        · exact fun newsId mem => absurd mem List.not_mem_nil
      · refine (tudo.saem c mem onTime out).imp_left fun ⟨rodada, there, at_it⟩ =>
          ⟨rodada, ?_, at_it⟩
        have inside := (List.getElem?_eq_some_iff.mp there).1
        exact (List.getElem?_append_left inside).trans there
  | fora noticias =>
      have none : lembrar h s (.fora noticias) (s.step (.fora noticias)) = h := List.append_nil h
      rw [none]
      exact ⟨tudo.disparadas, tudo.saem⟩
  | avancar i =>
      cases call : s.rodadas[i]? with
      | none => simpa [Noticiario.step, lembrar, consumo?, call] using tudo
      | some rodada =>
          cases rodada with
          | percorrendo agora vencidos disparadas =>
              cases vencidos with
              | nil => simpa [Noticiario.step, avancar, lembrar, consumo?, call] using tudo
              | cons vez vencidos =>
                  have after := tudo.volta call
                  have consumed : (consumo? s (.avancar i)).toList =
                      if s.trocou vez then [⟨i, vez, agora⟩] else [] := by
                    simp only [consumo?, call]
                    split <;> rfl
                  simpa only [Noticiario.step, avancar, lembrar, consumed, call] using after
          | publicando agora vez vencidos disparadas =>
              have none : (consumo? s (.avancar i)).toList = [] := by
                simp only [consumo?, call, Option.toList_none]
              have known := tudo.disparadas i _ call
              simp only [Noticiario.step, avancar, lembrar, none, call, List.append_nil]
              split
              · have made : (⟨i, vez.agendamento.id, vez.marcado, vez.news.id, agora⟩ : Disparo) ∈
                    s.disparos ++ [⟨i, vez.agendamento.id, vez.marcado, vez.news.id, agora⟩] :=
                  List.mem_append_right _ (List.mem_singleton_self _)
                refine tudo.moveu call rfl (fun d mem => List.mem_append_left _ mem)
                  (fun newsId mem => ?_) fun newsId at_it => .inr ⟨_, made, at_it, rfl⟩
                rcases known newsId mem with rfl | ⟨d, old, rest⟩
                · exact ⟨_, made, rfl, rfl⟩
                · exact ⟨d, List.mem_append_left _ old, rest⟩
              · exact tudo.moveu call rfl (fun _ mem => mem) trivial fun _ _ => .inl trivial
          | falhou => simpa [Noticiario.step, avancar, lembrar, consumo?, call] using tudo

theorem TudoSai.umDaRodada {sh : Noticiario × List Consumo} (tudo : TudoSai sh)
    (ordem : EmOrdemDeDisparo sh) : UmDaRodada sh := fun c mem onTime out =>
  (tudo.saem c mem onTime out).imp_right fun ⟨d, made, news, round⟩ =>
    ⟨d, ⟨made, news, round⟩, fun e ⟨other, news', round'⟩ =>
      ordem.porRodada e other d made (round'.trans round.symm) (news'.trans news.symm)⟩

/-- What the round and the minute have is one dispatch, where no other round is in that minute. -/
theorem TudoSai.umSo {sh : Noticiario × List Consumo} (tudo : TudoSai sh)
    (ordem : EmOrdemDeDisparo sh) (um : PorMinuto sh) : UmSo sh := fun c mem onTime out =>
  (tudo.saem c mem onTime out).imp_right fun ⟨d, made, news, round⟩ => by
    refine ⟨d, ⟨made, news, .inl round⟩, fun e ⟨other, news', here⟩ => ?_⟩
    refine ordem.porRodada e other d made ?_ (news'.trans news.symm)
    rcases here with round' | minute
    · exact round'.trans round.symm
    · obtain ⟨_, c', own, round', _, _, mark, item, onTime'⟩ := ordem.disparos e other
      have same := um c' own c mem onTime' onTime (item.trans news') (by rw [mark, minute])
      exact round'.symm.trans (same.trans round.symm)

theorem tudoSai_inicio (rodadas : s.rodadas = []) : TudoSai (s, []) where
  disparadas := fun i rodada call => by rw [rodadas] at call; cases call
  saem := fun c mem => absurd mem List.not_mem_nil

/-! ### Whole runs -/

theorem emOrdem_inicio (ids : (s.agendamentos.map NewsSchedule.id).Nodup) (rodadas : s.rodadas = [])
    (disparos : s.disparos = []) : EmOrdemDeDisparo (s, []) where
  ids := ids
  consumidos := fun c mem => absurd mem List.not_mem_nil
  umConsumo := List.nodup_nil
  rodadas := fun i rodada call => by rw [rodadas] at call; cases call
  disparos := fun d mem => by rw [disparos] at mem; cases mem
  porOcorrencia := by rw [disparos]; exact List.nodup_nil
  porRodada := fun d mem => by rw [disparos] at mem; cases mem

/-- In every run of overlapping rounds an occurrence is dispatched once at most and in time, its
round has one dispatch of its news when it may go out, and the round that consumes it sets the first
one after its instant.  And in every run whose occurrences of one news in one minute are consumed in
time by one round, that dispatch is the only one of the news in the minute. -/
theorem agendados_run (s : Noticiario) (ids : (s.agendamentos.map NewsSchedule.id).Nodup)
    (rodadas : s.rodadas = []) (disparos : s.disparos = []) (acoes : List Acao)
    (relogio : ∀ acao ∈ acoes, NoRelogio acao) :
    Always Noticiario.step UmaVez s acoes ∧ EachStep Noticiario.step ConsumoCerto s acoes ∧
      Always (withHistory Noticiario.step lembrar) UmDaRodada (s, []) acoes ∧
      (EachStep (withHistory Noticiario.step lembrar) MesmaRodada (s, []) acoes →
        Always Noticiario.step UmaPorMinuto s acoes ∧
          Always (withHistory Noticiario.step lembrar) UmSo (s, []) acoes) := by
  have start : EmOrdemDeDisparo (s, []) := emOrdem_inicio ids rodadas disparos
  have clocks : EachStep (withHistory Noticiario.step lembrar) (fun _ acao => NoRelogio acao)
      (s, []) acoes := eachStep_of_mem relogio
  have ordem : Always (withHistory Noticiario.step lembrar)
      (fun sh => EmOrdemDeDisparo sh ∧ TudoSai sh) (s, []) acoes :=
    always_of_eachStep (fun _ acao inv clock => ⟨inv.1.step clock, inv.2.step acao⟩)
      ⟨start, tudoSai_inicio rodadas⟩ clocks
  have certo : EachStep (withHistory Noticiario.step lembrar)
      (fun sh acao => ConsumoCerto sh.1 acao) (s, []) acoes :=
    ordem.eachStep fun _ acao inv => inv.1.consumoCerto acao
  have uma : Always (withHistory Noticiario.step lembrar) (fun sh => UmaVez sh.1) (s, []) acoes :=
    ordem.mono fun _ inv => inv.1.umaVez
  refine ⟨(always_withHistory (s, [])).mp uma, (eachStep_withHistory (s, [])).mp certo,
    ordem.mono fun _ inv => inv.2.umDaRodada inv.1, fun mesma => ?_⟩
  have all : Always (withHistory Noticiario.step lembrar)
      (fun sh => (EmOrdemDeDisparo sh ∧ TudoSai sh) ∧ PorMinuto sh) (s, []) acoes :=
    always_of_eachStep
      (fun _ acao inv guard =>
        ⟨⟨inv.1.1.step guard.1, inv.1.2.step acao⟩, inv.2.step guard.2⟩)
      ⟨⟨start, tudoSai_inicio rodadas⟩, fun c mem => absurd mem List.not_mem_nil⟩ (clocks.and mesma)
  have minuto : Always (withHistory Noticiario.step lembrar) (fun sh => UmaPorMinuto sh.1) (s, [])
      acoes := all.mono fun _ inv => inv.1.1.umaPorMinuto inv.2
  exact ⟨(always_withHistory (s, [])).mp minuto, all.mono fun _ inv => inv.1.2.umSo inv.1.1 inv.2⟩

/-! ### One round and two -/

theorem consumo?_rodada {acao : Acao} {c : Consumo} (consumed : consumo? s acao = some c) :
    acao = .avancar c.rodada := by
  cases acao with
  | comecar agora => cases consumed
  | fora noticias => cases consumed
  | avancar i =>
      rw [consumo?] at consumed
      split at consumed
      · split at consumed
        · obtain rfl := Option.some.inj consumed
          rfl
        · cases consumed
      · cases consumed

/-- A run of one round meets the condition. -/
theorem mesmaRodada_uma {k : Nat} {acoes : List Acao} (uma : ∀ i, .avancar i ∈ acoes → i = k)
    (antes : ∀ e ∈ h, e.rodada = k) :
    EachStep (withHistory Noticiario.step lembrar) MesmaRodada (s, h) acoes := by
  induction acoes generalizing s h with
  | nil => trivial
  | cons acao acoes ih =>
      have own : ∀ c, consumo? s acao = some c → c.rodada = k := by
        intro c consumed
        obtain rfl := consumo?_rodada consumed
        exact uma c.rodada List.mem_cons_self
      refine ⟨fun c consumed e mem _ _ _ _ => (own c consumed).trans (antes e mem).symm,
        ih (fun i mem => uma i (List.mem_cons_of_mem _ mem)) fun e mem => ?_⟩
      rcases List.mem_append.mp mem with old | new
      · exact antes e old
      · exact own e (Option.mem_toList.mp new)

end Noticiario

namespace DoisAgendamentos

/-- Two schedules of one news for the same instant. -/
def inicio : Noticiario where
  agendamentos := [⟨⟨.once, some 100000000, [], none⟩, 1, 7, some 100000000, none⟩,
    ⟨⟨.once, some 100000000, [], none⟩, 2, 7, some 100000000, none⟩]
  noticias := [⟨7, "Culto", true, none, none, []⟩]
  rodadas := []
  disparos := []

/-- One round consumes both. -/
def umaRodada : List Noticiario.Acao :=
  [.comecar 100000000, .avancar 0, .avancar 0, .avancar 0, .avancar 0]

/-- Two replicas read both schedules, and each consumes one. -/
def duasRodadas : List Noticiario.Acao :=
  [.comecar 100000000, .comecar 100000000, .avancar 0, .avancar 1, .avancar 1, .avancar 0,
    .avancar 1]

end DoisAgendamentos

/-- One round dispatches the news once. -/
theorem agendados_run_umaRodada :
    Always Noticiario.step Noticiario.UmaVez DoisAgendamentos.inicio DoisAgendamentos.umaRodada ∧
      EachStep Noticiario.step Noticiario.ConsumoCerto DoisAgendamentos.inicio
        DoisAgendamentos.umaRodada ∧
      Always Noticiario.step Noticiario.UmaPorMinuto DoisAgendamentos.inicio
        DoisAgendamentos.umaRodada ∧
      Always (withHistory Noticiario.step Noticiario.lembrar) Noticiario.UmSo
        (DoisAgendamentos.inicio, []) DoisAgendamentos.umaRodada ∧
      (runFrom Noticiario.step DoisAgendamentos.inicio DoisAgendamentos.umaRodada).disparos =
        [⟨0, 1, 100000000, 7, 100000000⟩] := by
  have clock : ∀ acao ∈ DoisAgendamentos.umaRodada, Noticiario.NoRelogio acao := by
    simp [DoisAgendamentos.umaRodada, Noticiario.NoRelogio, fusoMs]
  have run := Noticiario.agendados_run DoisAgendamentos.inicio (by decide) rfl rfl
    DoisAgendamentos.umaRodada clock
  have one : ∀ i, Noticiario.Acao.avancar i ∈ DoisAgendamentos.umaRodada → i = 0 := by
    intro i mem
    simpa [DoisAgendamentos.umaRodada] using mem
  have minute := run.2.2.2 (Noticiario.mesmaRodada_uma one fun _ mem => absurd mem List.not_mem_nil)
  exact ⟨run.1, run.2.1, minute.1, minute.2, by decide⟩

/-- Two rounds that split the schedules dispatch the news twice in one minute. -/
theorem agendados_duasRodadas :
    ¬ Always Noticiario.step Noticiario.UmaPorMinuto DoisAgendamentos.inicio
      DoisAgendamentos.duasRodadas := by
  intro always
  have last := always.last
  have sent : (runFrom Noticiario.step
      DoisAgendamentos.inicio DoisAgendamentos.duasRodadas).disparos =
      [⟨0, 1, 100000000, 7, 100000000⟩, ⟨1, 2, 100000000, 7, 100000000⟩] := by decide
  have same := last ⟨0, 1, 100000000, 7, 100000000⟩ (by rw [sent]; simp)
    ⟨1, 2, 100000000, 7, 100000000⟩ (by rw [sent]; simp) rfl rfl
  cases same

end IccvBackend
