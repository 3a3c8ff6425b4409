/-
Module: IccvBackend.Proofs.RequestStatus
Purpose: When the status of a purchase request follows the recorded decisions while calls of
  `mudarStatus` are in flight.
Trusted boundary: none
Main exports: ChurchRequest.statusDasDecisoes, PedidoEmCurso.SoPelasDecisoes,
  soPelasDecisoes_run_iff, not_soPelasDecisoes_escritaAtrasada
-/
import IccvBackend.Proofs.Decisions

namespace IccvBackend

open Lib

/-! ### The law -/

namespace ChurchRequest

/-- The status the recorded decisions determine. -/
def statusDasDecisoes (p : ChurchRequest) : ChurchRequestStatus :=
  if p.pastorDecision = some false ∨ p.treasuryDecision = some false then .rejected
  else if p.pastorDecision = some true ∧ p.treasuryDecision = some true then
    fechamento (p.items.map fun item =>
      some (decide (item.pastorAccepted = some true) && decide (item.treasuryAccepted = some true)))
  else if p.pastorDecision = some true then .awaitingTreasury
  else if p.treasuryDecision = some true then .awaitingPastor
  else p.status

/-- A request as `criar` leaves it: requested, and nobody has decided. -/
structure Recente (p : ChurchRequest) : Prop where
  status : p.status = .requested
  ninguem : ∀ lado, p.decisao lado = none
  itens : ∀ item ∈ p.items, item.accepted = none

end ChurchRequest

namespace PedidoEmCurso

/-- Once a side has decided, the status is the one the decisions determine. -/
def SoPelasDecisoes (s : PedidoEmCurso) : Prop :=
  (∃ lado, s.pedido.decisao lado ≠ none) →
    s.pedido.status = s.pedido.statusDasDecisoes ∧ s.pedido.status ∉ antesDaDecisao

/-- A `mudarStatus` that changes the status writes while nobody has decided. -/
def GravaAntes (s : PedidoEmCurso) : Passo → Prop
  | .gravar i => ∀ m, s.abertas[i]? = some m → ChurchRequest.mudaSituacao m.dto m.lido →
      ∀ lado, s.pedido.decisao lado = none
  | _ => True

end PedidoEmCurso

/-! ### One step -/

namespace ChurchRequest

variable {p : ChurchRequest}

theorem Recente.etapa (recente : p.Recente) : p.Etapa :=
  .antes (recente.status ▸ by simp [antesDaDecisao]) recente.ninguem recente.itens

/-- At every stage the decisions determine the status. -/
theorem Etapa.status_eq (etapa : p.Etapa) : p.status = p.statusDasDecisoes := by
  cases etapa with
  | antes status ninguem itens =>
      have pastor : p.pastorDecision = none := ninguem .pastor
      have tesouraria : p.treasuryDecision = none := ninguem .tesouraria
      simp [statusDasDecisoes, pastor, tesouraria]
  | aguarda lado status aprovou falta itens =>
      cases lado with
      | pastor =>
          have pastor : p.pastorDecision = some true := aprovou
          have tesouraria : p.treasuryDecision = none := falta
          simp [statusDasDecisoes, pastor, tesouraria, status, LadoDaDecisao.aguardaOutro]
      | tesouraria =>
          have pastor : p.pastorDecision = none := falta
          have tesouraria : p.treasuryDecision = some true := aprovou
          simp [statusDasDecisoes, pastor, tesouraria, status, LadoDaDecisao.aguardaOutro]
  | recusada lado status recusou itens =>
      have refused : p.pastorDecision = some false ∨ p.treasuryDecision = some false := by
        cases lado with
        | pastor => exact .inl recusou
        | tesouraria => exact .inr recusou
      rw [statusDasDecisoes, if_pos refused, status]
  | fechada status aprovaram itens =>
      have pastor : p.pastorDecision = some true := aprovaram .pastor
      have tesouraria : p.treasuryDecision = some true := aprovaram .tesouraria
      have accepted : p.items.map ChurchRequestItem.accepted = p.items.map fun item =>
          some (decide (item.pastorAccepted = some true) &&
            decide (item.treasuryAccepted = some true)) := by
        refine List.map_congr_left fun item mem => ?_
        obtain ⟨aceito, is, iff⟩ := itens item mem
        rw [is, Option.some_inj, Bool.eq_iff_iff, iff, LadoDaDecisao.forall_iff .pastor]
        simp [ChurchRequestItem.aprovadoPor, LadoDaDecisao.outro]
      rw [status, accepted]
      simp [statusDasDecisoes, pastor, tesouraria]

end ChurchRequest

namespace PedidoEmCurso

variable {trim : String → String} {s : PedidoEmCurso}

theorem soPelasDecisoes_of_etapa (etapa : s.pedido.Etapa) : s.SoPelasDecisoes := by
  rintro ⟨lado, decided⟩
  exact ⟨etapa.status_eq, fun before => decided (etapa.antes_iff.mp before lado)⟩

/-- A step that meets the guard keeps the request at a stage. -/
theorem etapa_step (etapa : s.pedido.Etapa) {passo : Passo} (guard : s.GravaAntes passo) :
    (s.step trim passo).pedido.Etapa := by
  cases passo with
  | ler dto =>
      simp only [step]
      split
      · exact etapa
      · exact etapa
  | gravar i =>
      simp only [step]
      cases open_ : s.abertas[i]? with
      | none => exact etapa
      | some m =>
          rcases @ChurchRequest.status_gravarSituacao trim s.pedido m.dto m.lido
            with ⟨changes, before⟩ | ⟨_, same⟩
          · have ninguem := guard m open_ changes
            cases etapa with
            | antes status _ itens =>
                exact .antes before
                  (fun lado => ChurchRequest.gravarSituacao_decisao.trans (ninguem lado)) itens
            | aguarda lado status aprovou falta itens =>
                rw [ninguem lado] at aprovou
                cases aprovou
            | recusada lado status recusou itens =>
                rw [ninguem lado] at recusou
                cases recusou
            | fechada status aprovaram itens =>
                have yes := aprovaram .pastor
                rw [ninguem] at yes
                cases yes
          · exact etapa.congr (fun _ => ChurchRequest.gravarSituacao_decisao) rfl same
  | decidir lado userId dto agora =>
      simp only [step]
      cases ok : s.pedido.decidir trim lado userId dto agora with
      | error falha => exact etapa
      | ok q =>
          obtain ⟨⟨notEnded, mine, _⟩, rfl⟩ := ChurchRequest.decidir_eq_ok_iff.mp ok
          exact etapa.decidido notEnded mine

/-- A write that changes the status of a request somebody has decided breaks the law. -/
theorem gravaAntes_of_soPelasDecisoes {passo : Passo}
    (after : (s.step trim passo).SoPelasDecisoes) :
    s.GravaAntes passo := by
  cases passo with
  | ler dto => trivial
  | decidir lado userId dto agora => trivial
  | gravar i =>
      intro m open_ changes lado
      by_contra decided
      have written : (s.step trim (.gravar i)).pedido = s.pedido.gravarSituacao trim
          m.dto m.lido := by
        simp only [step, open_]
      unfold SoPelasDecisoes at after
      rw [written] at after
      have back := (after ⟨lado, by rwa [ChurchRequest.gravarSituacao_decisao]⟩).2
      rcases @ChurchRequest.status_gravarSituacao trim s.pedido m.dto m.lido
        with ⟨_, before⟩ | ⟨same, _⟩
      · exact back before
      · exact same changes

end PedidoEmCurso

/-- In a run from a new request, the status follows the decisions in every state reached exactly
when every `mudarStatus` that changes the status writes while nobody has decided. -/
theorem soPelasDecisoes_run_iff (trim : String → String) {s : PedidoEmCurso}
    (recente : s.pedido.Recente) (passos : List PedidoEmCurso.Passo) :
    Always (PedidoEmCurso.step trim) PedidoEmCurso.SoPelasDecisoes s passos ↔
      EachStep (PedidoEmCurso.step trim) PedidoEmCurso.GravaAntes s passos :=
  always_iff_eachStep_of_invariant (I := fun s : PedidoEmCurso => s.pedido.Etapa)
    (fun _ etapa => PedidoEmCurso.soPelasDecisoes_of_etapa etapa)
    (fun _ _ etapa guard => PedidoEmCurso.etapa_step etapa guard)
    (fun _ _ _ after => PedidoEmCurso.gravaAntes_of_soPelasDecisoes after) recente.etapa

namespace EscritaAtrasada

def pedido : ChurchRequest where
  id := 20
  churchId := 10
  requesterId := 3
  ministry := "Louvor"
  title := "Som"
  description := ""
  status := .requested
  response := none
  pastorDecision := none
  pastorId := none
  pastorAt := none
  treasuryDecision := none
  treasurerId := none
  treasuryAt := none
  createdAt := 0
  items := [⟨21, "Cabo", 1, none, none, none, none, 0⟩]

theorem recente : pedido.Recente :=
  ⟨rfl, fun lado => by cases lado <;> rfl, by decide⟩

theorem inReview_antes : ChurchRequestStatus.inReview ∈ antesDaDecisao := by decide

/-- The pastor refuses between the read and the write of a `mudarStatus`. -/
def passos : List PedidoEmCurso.Passo :=
  [.ler ⟨some ⟨.inReview, inReview_antes⟩, none⟩, .decidir .pastor 1 ⟨false, none, none⟩ 1,
    .gravar 0]

/-- The request that was refused is in review again. -/
theorem emAnaliseDeNovo :
    ¬ (runFrom (PedidoEmCurso.step id) ⟨pedido, []⟩ passos).SoPelasDecisoes := by
  intro law
  have back := law ⟨.pastor, by decide⟩
  exact absurd back.2 (by decide)

end EscritaAtrasada

theorem not_soPelasDecisoes_escritaAtrasada :
    ¬ Always (PedidoEmCurso.step id) PedidoEmCurso.SoPelasDecisoes ⟨EscritaAtrasada.pedido, []⟩
      EscritaAtrasada.passos :=
  fun always => EscritaAtrasada.emAnaliseDeNovo always.last

/-- In that run a status is written over a decision taken since the read. -/
theorem soPelasDecisoes_run_iff_escritaAtrasada :
    ¬ EachStep (PedidoEmCurso.step id) PedidoEmCurso.GravaAntes ⟨EscritaAtrasada.pedido, []⟩
      EscritaAtrasada.passos := by
  intro antes
  have always := (soPelasDecisoes_run_iff id EscritaAtrasada.recente
    EscritaAtrasada.passos).mpr antes
  exact EscritaAtrasada.emAnaliseDeNovo always.last

end IccvBackend
