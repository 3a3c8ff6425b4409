/-
Module: IccvBackend.Proofs.Counter
Purpose: What one statement of a call at the counter does to the tables.
Trusted boundary: none
Main exports: Balcao.Feito, Balcao.feito?, Balcao.Mudanca, Balcao.mudanca_avancar
-/
import IccvBackend.Checkin.Service
import IccvBackend.Lib.Transitions

namespace IccvBackend

open Lib

namespace Balcao

/-! ### What a call has done -/

/-- The writes of a status. -/
inductive Feito where
  | entregou
  | chamou
  | concluiu
  | desfez
  | reverteu
deriving Repr, DecidableEq

/-- The write of a status that took a call from one statement to the next, with the person it was
on: a call that loses the race is refused or goes on to the next candidate. -/
def feitoDe (antes depois : Ponto) : Option (Feito × Id) :=
  match antes, depois with
  | .entregar userId _, .jaTemQuarto _ => some (.entregou, userId)
  | .call userId, .fim (.participante _) => some (.chamou, userId)
  | .tentarProximo _ _, .fim (.participante userId) => some (.chamou, userId)
  | .complete userId _, .fim (.participante _) => some (.concluiu, userId)
  | .desfazer userId _, .liberar _ _ => some (.desfez, userId)
  | .desfazer userId _, .fim (.participante _) => some (.desfez, userId)
  | .reverter userId _, .liberar _ _ => some (.reverteu, userId)
  | .reverter userId _, .fim (.participante _) => some (.reverteu, userId)
  | _, _ => none

/-- The write of a status in a step, with the key of the check-in. -/
def feito? (textos : TextosDoBalcao) (b : Balcao) : Acao → Option (Feito × Id × Id)
  | .nova _ _ _ => none
  | .avancar i agora empate =>
      b.chamadas[i]?.bind fun c =>
        (feitoDe c.ponto (b.avancar textos c agora empate).2).map fun f => (f.1, f.2, c.eventId)

/-- The statuses each write expects, and what it makes of the row. -/
inductive Grava : Feito → CheckinStatus → (CheckinRow → CheckinRow) → Prop
  | entregou (operatorId agora) : Grava .entregou .pending (.entregar operatorId agora)
  | chamou (operatorId agora) : Grava .chamou .queued (.chamar operatorId agora)
  | concluiu {status} (operatorId agora notes) (esperado : status ∈ queueStatuses) :
      Grava .concluiu status (.concluir operatorId agora notes)
  | desfez (status) : Grava .desfez status (.anterior status)
  | reverteu {status} (esperado : status ≠ .pending) : Grava .reverteu status .reverter

/-- The statements that record or give back a bedroom. -/
def Ponto.doQuarto : Ponto → Bool
  | .registrar _ _ | .liberar _ _ | .limpar _ => true
  | _ => false

/-- The bedroom an undo about to write would release. -/
def Ponto.quartoLido : Ponto → Option Id
  | .desfazer _ atual => if atual.status = .queued then atual.autoBedroomId else none
  | .reverter _ autoBedroomId => autoBedroomId
  | _ => none

/-- The person whose badge the call has delivered. -/
def Ponto.entregue : Ponto → Option Id
  | .jaTemQuarto userId | .candidatos userId | .alocar userId _ | .registrar userId _ => some userId
  | _ => none

/-- Everything one statement of a call may do to the tables. -/
inductive Mudanca (b : Balcao) (c : Chamada) : Ponto → Balcao → Prop
  | leu {ponto} (nada : feitoDe c.ponto ponto = none) (livre : c.ponto.doQuarto = false)
      (segue : ∀ u, ponto.entregue = some u → c.ponto.entregue = some u) : Mudanca b c ponto b
  | criou (userId agora) (de : c.ponto = .entregar userId none)
      (livre : b.checkin? userId c.eventId = none) :
      Mudanca b c (.jaTemQuarto userId)
        { b with checkins := b.checkins ++ [.nova userId c.eventId c.operatorId agora] }
  | gravou {ponto f userId r g} (feito : feitoDe c.ponto ponto = some (f, userId))
      (achado : b.checkin? userId c.eventId = some r) (grava : Grava f r.status g)
      (lido : ∀ u atual, c.ponto = .desfazer u atual → atual.status = r.status)
      (solta : f = .desfez ∨ f = .reverteu → ponto = soltarQuarto userId c.ponto.quartoLido)
      (segue : ∀ u, ponto.entregue = some u → u = userId) :
      Mudanca b c ponto (b.atualizar userId c.eventId g)
  | ocupou (userId quarto quartos) (de : c.ponto = .alocar userId (quarto :: quartos))
      (cabe : ∀ capacity, quarto.capacity = some capacity →
        (b.casa.ocupantes quarto.id : Int) < capacity)
      (nova : ⟨userId, quarto.id⟩ ∉ b.bedroomsOnUsers) :
      Mudanca b c (.registrar userId quarto.id)
        { b with bedroomsOnUsers := b.bedroomsOnUsers ++ [⟨userId, quarto.id⟩] }
  | registrou (userId bedroomId) (de : c.ponto = .registrar userId bedroomId) :
      Mudanca b c (.fim (.participante userId))
        (b.atualizar userId c.eventId (.comQuarto (some bedroomId)))
  | liberou (userId bedroomId) (de : c.ponto = .liberar userId bedroomId) :
      Mudanca b c (.limpar userId)
        { b with bedroomsOnUsers := b.bedroomsOnUsers.filter fun row => row ≠ ⟨userId, bedroomId⟩ }
  | limpou (userId) (de : c.ponto = .limpar userId) :
      Mudanca b c (.fim (.participante userId))
        (b.atualizar userId c.eventId (.comQuarto none))

variable {textos : TextosDoBalcao} {b depois : Balcao}

theorem atualizarSe_eq_some {userId eventId : Id} {esperado : CheckinStatus → Bool}
    {f : CheckinRow → CheckinRow} (done : b.atualizarSe userId eventId esperado f = some depois) :
    ∃ r, b.checkin? userId eventId = some r ∧ esperado r.status = true ∧
      depois = b.atualizar userId eventId f := by
  unfold atualizarSe at done
  split at done
  · next expected =>
      obtain ⟨r, found, is⟩ := Option.any_eq_true _ _ |>.mp expected
      exact ⟨r, found, is, (Option.some.inj done).symm⟩
  · cases done

theorem atualizarSe_eq_none {userId eventId : Id} {esperado : CheckinStatus → Bool}
    {f : CheckinRow → CheckinRow} (missed : b.atualizarSe userId eventId esperado f = none)
    {r : CheckinRow} (found : b.checkin? userId eventId = some r) : esperado r.status = false := by
  unfold atualizarSe at missed
  split at missed
  · cases missed
  · next unexpected => simpa [found] using unexpected

/-- Every statement does one of these to the tables. -/
theorem mudanca_avancar (textos : TextosDoBalcao) (b : Balcao) (c : Chamada) (agora : Instant)
    (empate : CheckinRow → Nat) :
    Mudanca b c (b.avancar textos c agora empate).2 (b.avancar textos c agora empate).1 := by
  obtain ⟨eventId, operatorId, ponto⟩ := c
  cases ponto with
  | deliverBadge userId =>
      simp only [avancar, avancarEntrega]
      split
      · exact .leu rfl rfl (by simp [Ponto.entregue])
      · exact .leu rfl rfl (by simp [Ponto.entregue])
  | entregar userId existente =>
      cases existente with
      | none =>
          simp only [avancar, avancarEntrega]
          split
          · exact .leu rfl rfl (by simp [Ponto.entregue])
          · next absent => exact .criou userId agora rfl (by simpa using absent)
      | some existente =>
          simp only [avancar, avancarEntrega]
          split
          · next done =>
              obtain ⟨r, found, is, rfl⟩ := atualizarSe_eq_some done
              exact .gravou rfl found (of_decide_eq_true is ▸ .entregou operatorId agora) (by simp)
                (by simp) (by simp [Ponto.entregue])
          · exact .leu rfl rfl (by simp [Ponto.entregue])
  | jaTemQuarto userId =>
      simp only [avancar, avancarEntrega]
      split
      · exact .leu rfl rfl (by simp [Ponto.entregue])
      · exact .leu rfl rfl (by simp [Ponto.entregue])
  | candidatos userId => exact .leu rfl rfl fun _ same => same
  | alocar userId quartos =>
      cases quartos with
      | nil => exact .leu rfl rfl fun _ absent => by cases absent
      | cons quarto quartos =>
          simp only [avancar, avancarEntrega]
          split
          · exact .leu rfl rfl (by simp [Ponto.entregue])
          · next fits =>
              split
              · exact .leu rfl rfl (by simp [Ponto.entregue])
              · next absent =>
                  refine .ocupou userId quarto quartos rfl (fun capacity has => ?_) absent
                  simpa [has] using fits
  | registrar userId bedroomId => exact .registrou userId bedroomId rfl
  | call userId =>
      simp only [avancar, avancarFoto]
      split
      · next done =>
          obtain ⟨r, found, is, rfl⟩ := atualizarSe_eq_some done
          exact .gravou rfl found (of_decide_eq_true is ▸ .chamou operatorId agora) (by simp)
              (by simp) (by simp [Ponto.entregue])
      · exact .leu rfl rfl (by simp [Ponto.entregue])
  | callRecusado userId => exact .leu rfl rfl fun _ same => same
  | callNext => exact .leu rfl rfl fun _ same => same
  | tentarProximo candidatos tentados =>
      simp only [avancar, avancarFoto]
      split
      · exact .leu rfl rfl (by simp [Ponto.entregue])
      · split
        · next done =>
            obtain ⟨r, found, is, rfl⟩ := atualizarSe_eq_some done
            exact .gravou rfl found (of_decide_eq_true is ▸ .chamou operatorId agora) (by simp)
              (by simp) (by simp [Ponto.entregue])
        · exact .leu rfl rfl (by simp [Ponto.entregue])
  | complete userId notes =>
      simp only [avancar, avancarConclusao]
      split
      · next done =>
          obtain ⟨r, found, is, rfl⟩ := atualizarSe_eq_some done
          exact .gravou rfl found (.concluiu operatorId agora notes (of_decide_eq_true is))
            (by simp) (by simp) (by simp [Ponto.entregue])
      · exact .leu rfl rfl (by simp [Ponto.entregue])
  | completeRecusado userId => exact .leu rfl rfl fun _ same => same
  | undo userId =>
      simp only [avancar, avancarRetorno]
      split
      · split
        · exact .leu rfl rfl (by simp [Ponto.entregue])
        · exact .leu rfl rfl (by simp [Ponto.entregue])
      · exact .leu rfl rfl (by simp [Ponto.entregue])
  | desfazer userId atual =>
      simp only [avancar, avancarRetorno]
      split
      · next done =>
          obtain ⟨r, found, is, rfl⟩ := atualizarSe_eq_some done
          have was := of_decide_eq_true is
          refine .gravou (f := .desfez) ?_ found (was ▸ .desfez r.status) ?_ (fun _ => rfl) ?_
          · cases (if atual.status = .queued then atual.autoBedroomId else none) <;> rfl
          · rintro u row ⟨⟩
            exact was.symm
          · cases (if atual.status = .queued then atual.autoBedroomId else none) <;>
              simp [soltarQuarto, Ponto.entregue]
      · exact .leu rfl rfl (by simp [Ponto.entregue])
  | undoBadgeDelivery userId =>
      simp only [avancar, avancarRetorno]
      split
      · exact .leu rfl rfl (by simp [Ponto.entregue])
      · exact .leu rfl rfl (by simp [Ponto.entregue])
  | reverter userId autoBedroomId =>
      simp only [avancar, avancarRetorno]
      split
      · next done =>
          obtain ⟨r, found, is, rfl⟩ := atualizarSe_eq_some done
          refine .gravou (f := .reverteu) ?_ found (.reverteu (of_decide_eq_true is)) (by simp)
            (fun _ => rfl) ?_
          · cases autoBedroomId <;> rfl
          · cases autoBedroomId <;> simp [soltarQuarto, Ponto.entregue]
      · exact .leu rfl rfl (by simp [Ponto.entregue])
  | liberar userId bedroomId => exact .liberou userId bedroomId rfl
  | limpar userId => exact .limpou userId rfl
  | fim resposta => exact .leu rfl rfl fun _ same => same

/-! ### The statements of one operation -/

/-- The operation a statement is of, up to its end. -/
inductive Trilha where
  | entrega
  | foto
  | conclusao
  | retorno
  | fim
deriving Repr, DecidableEq

def Ponto.trilha : Ponto → Trilha
  | .deliverBadge _ | .entregar _ _ | .jaTemQuarto _ | .candidatos _ | .alocar _ _
  | .registrar _ _ => .entrega
  | .call _ | .callRecusado _ | .callNext | .tentarProximo _ _ => .foto
  | .complete _ _ | .completeRecusado _ => .conclusao
  | .undo _ | .desfazer _ _ | .undoBadgeDelivery _ | .reverter _ _ | .liberar _ _ | .limpar _ =>
      .retorno
  | .fim _ => .fim

theorem trilha_soltarQuarto (userId : Id) (lido : Option Id) :
    (soltarQuarto userId lido).trilha = .retorno ∨ (soltarQuarto userId lido).trilha = .fim := by
  cases lido with
  | none => exact .inr rfl
  | some bedroomId => exact .inl rfl

/-- A call stays in its operation until it is over. -/
theorem trilha_avancar (textos : TextosDoBalcao) (b : Balcao) (c : Chamada) (agora : Instant)
    (empate : CheckinRow → Nat) :
    (b.avancar textos c agora empate).2.trilha = c.ponto.trilha ∨
      (b.avancar textos c agora empate).2.trilha = .fim := by
  obtain ⟨eventId, operatorId, ponto⟩ := c
  cases ponto with
  | deliverBadge userId | jaTemQuarto userId =>
      simp only [avancar, avancarEntrega]
      split <;> simp [Ponto.trilha]
  | entregar userId existente =>
      cases existente <;> simp only [avancar, avancarEntrega] <;> split <;> simp [Ponto.trilha]
  | alocar userId quartos =>
      cases quartos with
      | nil => exact .inr rfl
      | cons quarto quartos =>
          simp only [avancar, avancarEntrega]
          split
          · exact .inl rfl
          · split <;> simp [Ponto.trilha]
  | call userId =>
      simp only [avancar, avancarFoto]
      split <;> simp [Ponto.trilha]
  | tentarProximo candidatos tentados =>
      simp only [avancar, avancarFoto]
      split
      · exact .inr rfl
      · split <;> simp [Ponto.trilha]
  | complete userId notes =>
      simp only [avancar, avancarConclusao]
      split <;> simp [Ponto.trilha]
  | undo userId =>
      simp only [avancar, avancarRetorno]
      split
      · split <;> simp [Ponto.trilha]
      · exact .inr rfl
  | desfazer userId atual =>
      simp only [avancar, avancarRetorno]
      split
      · exact trilha_soltarQuarto _ _
      · exact .inr rfl
  | undoBadgeDelivery userId =>
      simp only [avancar, avancarRetorno]
      split <;> simp [Ponto.trilha]
  | reverter userId autoBedroomId =>
      simp only [avancar, avancarRetorno]
      split
      · exact trilha_soltarQuarto _ _
      · exact .inr rfl
  | candidatos userId => exact .inl rfl
  | callNext => exact .inl rfl
  | liberar userId bedroomId => exact .inl rfl
  | registrar userId bedroomId => exact .inr rfl
  | callRecusado userId => exact .inr rfl
  | completeRecusado userId => exact .inr rfl
  | limpar userId => exact .inr rfl
  | fim resposta => exact .inr rfl

/-! ### One step -/

/-- A step runs one statement of a call, or leaves the tables. -/
theorem step_cases (textos : TextosDoBalcao) (b : Balcao) (acao : Acao) :
    (∃ chamadas, b.step textos acao = { b with chamadas := chamadas } ∧
      b.feito? textos acao = none ∧
      (chamadas = b.chamadas ∨ ∃ eventId operatorId pedido,
        acao = .nova eventId operatorId pedido ∧
          chamadas = b.chamadas ++ [⟨eventId, operatorId, pedido.ponto⟩])) ∨
    ∃ i agora empate c, acao = .avancar i agora empate ∧ b.chamadas[i]? = some c ∧
      Mudanca b c (b.avancar textos c agora empate).2 (b.avancar textos c agora empate).1 ∧
      b.step textos acao = { (b.avancar textos c agora empate).1 with
        chamadas := b.chamadas.set i { c with ponto := (b.avancar textos c agora empate).2 } } ∧
      b.feito? textos acao = (feitoDe c.ponto (b.avancar textos c agora empate).2).map
        fun f => (f.1, f.2, c.eventId) := by
  cases acao with
  | nova eventId operatorId pedido => exact .inl ⟨_, rfl, rfl, .inr ⟨_, _, _, rfl, rfl⟩⟩
  | avancar i agora empate =>
      cases at_i : b.chamadas[i]? with
      | none =>
          refine .inl ⟨b.chamadas, ?_, ?_, .inl rfl⟩
          · simp only [step, at_i]
          · simp only [feito?, at_i, Option.bind_none]
      | some c =>
          refine .inr ⟨i, agora, empate, c, rfl, at_i, mudanca_avancar textos b c agora empate,
            ?_, ?_⟩
          · simp only [step, at_i]
          · simp only [feito?, at_i, Option.bind_some]

section Tabelas

variable {c : Chamada} {ponto : Ponto} {f : Feito} {status : CheckinStatus}
  {g : CheckinRow → CheckinRow}

theorem Grava.chave (grava : Grava f status g) (r : CheckinRow) : (g r).chave = r.chave := by
  cases grava with
  | desfez => cases status <;> rfl
  | _ => rfl

theorem chave_comQuarto (autoBedroomId : Option Id) (r : CheckinRow) :
    (r.comQuarto autoBedroomId).chave = r.chave := rfl

theorem checkin?_atualizar (same : ∀ r, (g r).chave = r.chave) (u e userId eventId : Id) :
    (b.atualizar u e g).checkin? userId eventId =
      if (userId, eventId) = (u, e) then (b.checkin? u e).map g else b.checkin? userId eventId :=
  lookup_updateKey same _

theorem chaves_atualizar (same : ∀ r, (g r).chave = r.chave) (u e : Id) :
    (b.atualizar u e g).checkins.map CheckinRow.chave = b.checkins.map CheckinRow.chave :=
  map_updateKey fun r _ _ => same r

/-- The key of the check-ins holds after a statement. -/
theorem Mudanca.chaves (mudanca : Mudanca b c ponto depois)
    (chaves : (b.checkins.map CheckinRow.chave).Nodup) :
    (depois.checkins.map CheckinRow.chave).Nodup := by
  cases mudanca with
  | leu => exact chaves
  | criou userId agora de livre =>
      rw [List.map_append, List.nodup_append]
      refine ⟨chaves, by simp, ?_⟩
      simp only [List.mem_map, List.map_cons, List.map_nil, List.mem_singleton]
      rintro _ ⟨r, mem, rfl⟩ _ rfl
      exact lookup_eq_none_iff.mp livre r mem
  | gravou feito achado grava lido solta segue => rwa [chaves_atualizar grava.chave]
  | ocupou => exact chaves
  | registrou => rwa [chaves_atualizar (chave_comQuarto _)]
  | liberou => exact chaves
  | limpou => rwa [chaves_atualizar (chave_comQuarto _)]

end Tabelas

end Balcao

/-! ### An event with two people -/

namespace DoisInscritos

def inscricao (userId : Id) : EventOnUsers where
  userId := userId
  eventId := 5
  minorApprovalStatus := .notRequired
  signedTermUrl := none
  minorApprovalReviewedById := none
  minorApprovalReviewedAt := none
  minorApprovalRejectionReason := none
  termsAcceptedAt := none
  certificateCode := none
  rolesRegistration := []

/-- The registrations of 1 and 2 in the event 5, which has one bedroom with one bed. -/
def inicio : Balcao where
  db :=
    { catalogue :=
        { churches := []
          configs := []
          users := []
          events := []
          groups := []
          discounts := []
          products := []
          roles_nodup := List.nodup_nil
          variants_nodup := List.nodup_nil }
      eventOnUsers := [inscricao 1, inscricao 2]
      waitlist := []
      payments := []
      nextId := 50
      payments_keyed := Keyed.nil
      items_keyed := Keyed.nil }
  desligados := []
  bedrooms := [⟨50, 5, "Quarto 1", some 1, []⟩]
  bedroomsOnUsers := []
  checkins := []
  proximoQuarto := 51
  chamadas := []

def textos : TextosDoBalcao := ⟨fun _ => none, fun _ => "", fun _ _ => true⟩

/-- A call made by the operator 9 in the event. -/
def pedir (pedido : Balcao.Pedido) : Balcao.Acao := .nova 5 9 pedido

/-- The next statement of a call. -/
def passo (i : Nat) : Balcao.Acao := .avancar i 1000 fun _ => 0

end DoisInscritos

end IccvBackend
