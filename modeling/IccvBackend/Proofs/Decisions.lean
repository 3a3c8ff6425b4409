/-
Module: IccvBackend.Proofs.Decisions
Purpose: The decisions of the pastor and the treasury on a purchase request: what they determine, in
  any order.
Trusted boundary: none
Main exports: ChurchRequest.PelasDecisoes, Solicitacoes.TantoFazAOrdem, Solicitacoes.UmaVezSo,
  decisoes_run
-/
import IccvBackend.Solicitacoes.Service
import IccvBackend.Lib.Transitions

namespace IccvBackend

open Lib

/-! ### The law -/

namespace ChurchRequest

variable (p : ChurchRequest)

/-- A side approved a product. -/
def Aprovou (lado : LadoDaDecisao) (item : ChurchRequestItem) : Prop :=
  p.decisao lado = some true ∧ item.aprovadoPor lado = some true

/-- The status and the accepted products are those the recorded decisions determine. -/
structure PelasDecisoes : Prop where
  aceitos : ∀ item ∈ p.items, item.accepted = some true ↔ ∀ lado, p.Aprovou lado item
  antes : p.status ∈ antesDaDecisao ↔ ∀ lado, p.decisao lado = none
  aguarda : ∀ lado, p.status = lado.aguardaOutro ↔
    p.decisao lado = some true ∧ p.decisao lado.outro = none
  aceita : p.status = .accepted ↔ ∀ item ∈ p.items, item.accepted = some true
  emParte : p.status = .partiallyAccepted ↔
    (∃ item ∈ p.items, item.accepted = some true) ∧ ∃ item ∈ p.items, item.accepted ≠ some true
  recusada : p.status = .rejected ↔ (∃ lado, p.decisao lado = some false) ∨
    (∀ lado, p.decisao lado = some true) ∧ ∀ item ∈ p.items, ¬ ∀ lado, p.Aprovou lado item

/-- The status and, product by product, what was accepted. -/
def desfecho : ChurchRequestStatus × List (Id × Option Bool) :=
  (p.status, p.items.map fun item => (item.id, item.accepted))

/-- All that is recorded of the decision of a side. -/
def registro : LadoDaDecisao → Option Bool × Option Id × Option Instant × List (Option Bool)
  | .pastor => (p.pastorDecision, p.pastorId, p.pastorAt, p.items.map (·.pastorAccepted))
  | .tesouraria =>
      (p.treasuryDecision, p.treasurerId, p.treasuryAt, p.items.map (·.treasuryAccepted))

end ChurchRequest

namespace Solicitacoes

variable (trim : String → String) (db : Solicitacoes)

/-- The pastor and the treasury may decide a request in either order. -/
def TantoFazAOrdem : Prop :=
  ∀ churchId id u v, (db.papel churchId u).lado = some .pastor →
    (db.papel churchId v).lado = some .tesouraria → ∀ d e agora depois,
      let pastor := Acao.decidir churchId id u d agora
      let tesouraria := Acao.decidir churchId id v e depois
      ((db.step trim pastor).step trim tesouraria).requests.map ChurchRequest.desfecho =
        ((db.step trim tesouraria).step trim pastor).requests.map ChurchRequest.desfecho

/-- A step leaves the decisions it finds, and all of a decided request but its response, which only
`mudarStatus` still edits. -/
def UmaVezSo (acao : Acao) : Prop :=
  ∀ p ∈ db.requests, ∃ q ∈ (db.step trim acao).requests, q.id = p.id ∧
    (∀ lado, p.decisao lado ≠ none → q.registro lado = p.registro lado) ∧
    (p.status ∈ decidida → q = { p with response := q.response } ∧
      ∀ churchId id userId dto agora, acao = .decidir churchId id userId dto agora → q = p)

end Solicitacoes

/-! ### One decision -/

@[simp] theorem LadoDaDecisao.outro_outro (lado : LadoDaDecisao) : lado.outro.outro = lado := by
  cases lado <;> rfl

theorem LadoDaDecisao.forall_iff {P : LadoDaDecisao → Prop} (lado : LadoDaDecisao) :
    (∀ l, P l) ↔ P lado ∧ P lado.outro := by
  constructor
  · exact fun all => ⟨all _, all _⟩
  · rintro ⟨mine, other⟩ l
    cases lado <;> cases l <;> assumption

theorem LadoDaDecisao.exists_iff {P : LadoDaDecisao → Prop} (lado : LadoDaDecisao) :
    (∃ l, P l) ↔ P lado ∨ P lado.outro := by
  constructor
  · rintro ⟨l, holds⟩
    cases lado <;> cases l <;> simp_all [LadoDaDecisao.outro]
  · rintro (holds | holds) <;> exact ⟨_, holds⟩

namespace ChurchRequestItem

variable (lado : LadoDaDecisao) (aprovado : Bool) (accepted : Option Bool)
  (item : ChurchRequestItem)

@[simp] theorem id_marcar : (item.marcar lado aprovado accepted).id = item.id := by
  cases lado <;> rfl

@[simp] theorem accepted_marcar : (item.marcar lado aprovado accepted).accepted = accepted := by
  cases lado <;> rfl

@[simp] theorem aprovadoPor_marcar :
    (item.marcar lado aprovado accepted).aprovadoPor lado = some aprovado := by
  cases lado <;> rfl

@[simp] theorem aprovadoPor_outro_marcar :
    (item.marcar lado aprovado accepted).aprovadoPor lado.outro = item.aprovadoPor lado.outro := by
  cases lado <;> rfl

end ChurchRequestItem

namespace ChurchRequest

variable {trim : String → String} {p q : ChurchRequest} {lado : LadoDaDecisao} {userId u v : Id}
  {dto d e : DecidirDto} {agora t r : Instant}

/-- The status of a request that both sides approved, from what was accepted. -/
def fechamento (aceitos : List (Option Bool)) : ChurchRequestStatus :=
  let emComum := (aceitos.filter fun aceito => aceito = some true).length
  if emComum = 0 then .rejected
  else if emComum = aceitos.length then .accepted
  else .partiallyAccepted

/-- A decision the checks on the products let through. -/
def Valida (p : ChurchRequest) (dto : DecidirDto) : Prop :=
  (∀ produto ∈ p.marcados dto, produto ∈ p.items.map ChurchRequestItem.id) ∧
    (dto.aprova → p.marcados dto ≠ [])

/-- The row a decision leaves. -/
def decidido (trim : String → String) (lado : LadoDaDecisao) (userId : Id) (dto : DecidirDto)
    (agora : Instant) (p : ChurchRequest) : ChurchRequest :=
  { p.registrar lado dto.aprova userId agora with
    items := p.items.map fun item =>
      item.marcar lado (decide (item.id ∈ p.marcados dto)) (p.final lado dto item)
    status := p.statusDaDecisao lado dto
    response := responder trim dto.resposta p.response }

theorem decidir_eq_ok_iff :
    p.decidir trim lado userId dto agora = .ok q ↔
      (p.status ∉ decidida ∧ p.decisao lado = none ∧ p.Valida dto) ∧
        q = p.decidido trim lado userId dto agora := by
  simp only [decidir, bind_eq_ok_iff, failIf_eq_ok_iff, pure_eq_ok_iff,
    exists_and_left, exists_const, Valida, ne_eq, not_not, not_exists, not_and, and_assoc]
  constructor
  · rintro ⟨notEnded, mine, inside, some_, rfl⟩
    exact ⟨notEnded, mine, inside, some_, rfl⟩
  · rintro ⟨notEnded, mine, inside, some_, rfl⟩
    exact ⟨notEnded, mine, inside, some_, rfl⟩

@[simp] theorem id_decidido : (p.decidido trim lado userId dto agora).id = p.id := by
  cases lado <;> rfl

@[simp] theorem churchId_decidido :
    (p.decidido trim lado userId dto agora).churchId = p.churchId := by
  cases lado <;> rfl

@[simp] theorem status_decidido :
    (p.decidido trim lado userId dto agora).status = p.statusDaDecisao lado dto := rfl

@[simp] theorem items_decidido : (p.decidido trim lado userId dto agora).items =
    p.items.map fun item =>
      item.marcar lado (decide (item.id ∈ p.marcados dto)) (p.final lado dto item) := rfl

@[simp] theorem decisao_decidido :
    (p.decidido trim lado userId dto agora).decisao lado = some dto.aprova := by
  cases lado <;> rfl

@[simp] theorem decisao_outro_decidido :
    (p.decidido trim lado userId dto agora).decisao lado.outro = p.decisao lado.outro := by
  cases lado <;> rfl

theorem registro_outro_decidido :
    (p.decidido trim lado userId dto agora).registro lado.outro = p.registro lado.outro := by
  cases lado <;>
    simp [registro, decidido, LadoDaDecisao.outro, registrar, ChurchRequestItem.marcar,
      Function.comp_def]

@[simp] theorem marcados_decidido (e : DecidirDto) :
    (p.decidido trim lado userId dto agora).marcados e = p.marcados e := by
  simp [marcados, Function.comp_def]

@[simp] theorem valida_decidido (e : DecidirDto) :
    (p.decidido trim lado userId dto agora).Valida e ↔ p.Valida e := by
  simp [Valida, Function.comp_def]

theorem final_recusa (refuses : dto.aprova = false) (item : ChurchRequestItem) :
    p.final lado dto item = some false := by
  simp [final, refuses]

theorem final_primeira (approves : dto.aprova = true) (first : p.decisao lado.outro ≠ some true)
    (item : ChurchRequestItem) : p.final lado dto item = none := by
  simp [final, approves, first]

theorem final_segunda (approves : dto.aprova = true) (second : p.decisao lado.outro = some true)
    (item : ChurchRequestItem) : p.final lado dto item =
      some (decide (item.id ∈ p.marcados dto) &&
        decide (item.aprovadoPor lado.outro = some true)) := by
  simp [final, approves, second]

theorem status_recusa (refuses : dto.aprova = false) : p.statusDaDecisao lado dto = .rejected := by
  simp [statusDaDecisao, refuses]

theorem status_primeira (approves : dto.aprova = true) (first : p.decisao lado.outro ≠ some true) :
    p.statusDaDecisao lado dto = lado.aguardaOutro := by
  simp [statusDaDecisao, approves, first]

theorem status_segunda (approves : dto.aprova = true) (second : p.decisao lado.outro = some true) :
    p.statusDaDecisao lado dto = fechamento (p.items.map (p.final lado dto)) := by
  simp [statusDaDecisao, fechamento, approves, second, List.filter_map, Function.comp_def]

/-! ### The stages of a request -/

/-- Where a request stands: nobody decided, one side approved, one side refused, or both
approved. -/
inductive Etapa (p : ChurchRequest) : Prop
  | antes (status : p.status ∈ antesDaDecisao) (ninguem : ∀ lado, p.decisao lado = none)
      (itens : ∀ item ∈ p.items, item.accepted = none)
  | aguarda (lado : LadoDaDecisao) (status : p.status = lado.aguardaOutro)
      (aprovou : p.decisao lado = some true) (falta : p.decisao lado.outro = none)
      (itens : ∀ item ∈ p.items, item.accepted = none)
  | recusada (lado : LadoDaDecisao) (status : p.status = .rejected)
      (recusou : p.decisao lado = some false)
      (itens : ∀ item ∈ p.items, item.accepted = some false)
  | fechada (status : p.status = fechamento (p.items.map ChurchRequestItem.accepted))
      (aprovaram : ∀ lado, p.decisao lado = some true)
      (itens : ∀ item ∈ p.items, ∃ aceito, item.accepted = some aceito ∧
        (aceito = true ↔ ∀ lado, item.aprovadoPor lado = some true))

theorem antes_ne_aguardaOutro {status : ChurchRequestStatus} (before : status ∈ antesDaDecisao)
    (lado : LadoDaDecisao) : status ≠ lado.aguardaOutro := by
  rintro rfl
  cases lado <;> simp [antesDaDecisao, LadoDaDecisao.aguardaOutro] at before

theorem aguardaOutro_not_decidida (lado : LadoDaDecisao) : lado.aguardaOutro ∉ decidida := by
  cases lado <;> decide

theorem antes_not_decidida {status : ChurchRequestStatus} (before : status ∈ antesDaDecisao) :
    status ∉ decidida := by
  intro ended
  simp only [antesDaDecisao, decidida, List.mem_cons, List.not_mem_nil, or_false] at before ended
  rcases before with rfl | rfl <;> simp at ended

theorem fechamento_decidida (aceitos : List (Option Bool)) : fechamento aceitos ∈ decidida := by
  unfold fechamento
  dsimp only
  split
  · simp [decidida]
  · split <;> simp [decidida]

theorem fechamento_rejected_iff {aceitos : List (Option Bool)} :
    fechamento aceitos = .rejected ↔ ∀ aceito ∈ aceitos, aceito ≠ some true := by
  have none_iff : (aceitos.filter fun aceito => aceito = some true).length = 0 ↔
      ∀ aceito ∈ aceitos, aceito ≠ some true := by
    simp [List.length_eq_zero_iff, List.filter_eq_nil_iff]
  rw [← none_iff, fechamento]
  generalize (aceitos.filter fun aceito => aceito = some true).length = emComum
  by_cases nothing : emComum = 0
  · simp [nothing]
  · rw [if_neg nothing]
    refine iff_of_false ?_ nothing
    split <;> simp

theorem fechamento_accepted_iff {aceitos : List (Option Bool)} (some_ : aceitos ≠ []) :
    fechamento aceitos = .accepted ↔ ∀ aceito ∈ aceitos, aceito = some true := by
  have all_iff : (aceitos.filter fun aceito => aceito = some true).length = aceitos.length ↔
      ∀ aceito ∈ aceitos, aceito = some true := by
    simp [List.length_filter_eq_length_iff]
  have positive := List.length_pos_iff.mpr some_
  rw [← all_iff, fechamento]
  generalize (aceitos.filter fun aceito => aceito = some true).length = emComum
  by_cases nothing : emComum = 0
  · simp only [if_pos nothing, reduceCtorEq, false_iff]
    omega
  · simp only [if_neg nothing]
    split <;> simp_all

theorem fechamento_partially_iff {aceitos : List (Option Bool)} :
    fechamento aceitos = .partiallyAccepted ↔
      (∃ aceito ∈ aceitos, aceito = some true) ∧ ∃ aceito ∈ aceitos, aceito ≠ some true := by
  have none_iff := @fechamento_rejected_iff aceitos
  rcases eq_or_ne aceitos [] with rfl | some_
  · simp [fechamento]
  · have all_iff := fechamento_accepted_iff some_
    have ended := fechamento_decidida aceitos
    simp only [decidida, List.mem_cons, List.not_mem_nil, or_false] at ended
    constructor
    · intro same
      rw [same] at none_iff all_iff
      simpa using And.intro none_iff all_iff
    · rintro ⟨⟨a, mem, yes⟩, ⟨b, mem', no⟩⟩
      rcases ended with same | same | same
      · exact absurd (all_iff.mp same b mem') no
      · exact same
      · exact absurd yes (none_iff.mp same a mem)

/-- The law while nobody decided. -/
theorem pelasDecisoes_antes (some_ : p.items ≠ []) (status : p.status ∈ antesDaDecisao)
    (ninguem : ∀ lado, p.decisao lado = none) (itens : ∀ item ∈ p.items, item.accepted = none) :
    p.PelasDecisoes := by
  have undecided : ∀ lado, p.decisao lado ≠ some true := fun lado => by simp [ninguem lado]
  constructor
  case aceitos =>
    intro item mem
    rw [LadoDaDecisao.forall_iff .pastor]
    simp [itens item mem, Aprovou, undecided]
  case antes => exact iff_of_true status ninguem
  case aguarda =>
    intro lado
    exact iff_of_false (antes_ne_aguardaOutro status lado) fun both => undecided lado both.1
  case aceita =>
    obtain ⟨item, mem⟩ := List.exists_mem_of_ne_nil _ some_
    apply iff_of_false
    · intro same
      simp [same, antesDaDecisao] at status
    · intro all
      simpa [itens item mem] using all item mem
  case emParte =>
    apply iff_of_false
    · intro same
      simp [same, antesDaDecisao] at status
    · rintro ⟨⟨item, mem, yes⟩, _⟩
      simp [itens item mem] at yes
  case recusada =>
    apply iff_of_false
    · intro same
      simp [same, antesDaDecisao] at status
    · rintro (⟨lado, no⟩ | ⟨all, _⟩)
      · simp [ninguem lado] at no
      · exact undecided .pastor (all _)

/-- The law while one side approved and the other is awaited. -/
theorem pelasDecisoes_aguarda (some_ : p.items ≠ []) (lado : LadoDaDecisao)
    (status : p.status = lado.aguardaOutro) (aprovou : p.decisao lado = some true)
    (falta : p.decisao lado.outro = none) (itens : ∀ item ∈ p.items, item.accepted = none) :
    p.PelasDecisoes := by
  have open_ : p.status ∉ decidida := by
    rw [status]
    exact aguardaOutro_not_decidida lado
  constructor
  case aceitos =>
    intro item mem
    rw [LadoDaDecisao.forall_iff lado]
    simp [itens item mem, Aprovou, falta]
  case antes =>
    apply iff_of_false
    · exact fun before => antes_ne_aguardaOutro before lado status
    · intro none_
      rw [none_ lado] at aprovou
      cases aprovou
  case aguarda =>
    rw [LadoDaDecisao.forall_iff lado]
    refine ⟨iff_of_true status ⟨aprovou, falta⟩, ?_⟩
    rw [LadoDaDecisao.outro_outro, status, falta]
    apply iff_of_false
    · cases lado <;> simp [LadoDaDecisao.aguardaOutro, LadoDaDecisao.outro]
    · intro both
      cases both.1
  case aceita =>
    obtain ⟨item, mem⟩ := List.exists_mem_of_ne_nil _ some_
    apply iff_of_false
    · exact fun same => open_ (by simp [same, decidida])
    · intro all
      simpa [itens item mem] using all item mem
  case emParte =>
    apply iff_of_false
    · exact fun same => open_ (by simp [same, decidida])
    · rintro ⟨⟨item, mem, yes⟩, _⟩
      simp [itens item mem] at yes
  case recusada =>
    apply iff_of_false
    · exact fun same => open_ (by simp [same, decidida])
    · rw [LadoDaDecisao.exists_iff lado, LadoDaDecisao.forall_iff lado]
      simp [aprovou, falta]

/-- The law once a side refused. -/
theorem pelasDecisoes_recusada (some_ : p.items ≠ []) (lado : LadoDaDecisao)
    (status : p.status = .rejected) (recusou : p.decisao lado = some false)
    (itens : ∀ item ∈ p.items, item.accepted = some false) : p.PelasDecisoes := by
  constructor
  case aceitos =>
    intro item mem
    rw [LadoDaDecisao.forall_iff lado]
    simp [itens item mem, Aprovou, recusou]
  case antes =>
    apply iff_of_false
    · simp [status, antesDaDecisao]
    · intro none_
      rw [none_ lado] at recusou
      cases recusou
  case aguarda =>
    intro l
    apply iff_of_false
    · rw [status]
      cases l <;> simp [LadoDaDecisao.aguardaOutro]
    · rintro ⟨yes, none_⟩
      cases l <;> cases lado <;> simp_all [LadoDaDecisao.outro]
  case aceita =>
    obtain ⟨item, mem⟩ := List.exists_mem_of_ne_nil _ some_
    apply iff_of_false
    · simp [status]
    · intro all
      simpa [itens item mem] using all item mem
  case emParte =>
    apply iff_of_false
    · simp [status]
    · rintro ⟨⟨item, mem, yes⟩, _⟩
      simp [itens item mem] at yes
  case recusada => exact iff_of_true status (.inl ⟨lado, recusou⟩)

/-- The law once both sides approved. -/
theorem pelasDecisoes_fechada (some_ : p.items ≠ [])
    (status : p.status = fechamento (p.items.map ChurchRequestItem.accepted))
    (aprovaram : ∀ lado, p.decisao lado = some true)
    (itens : ∀ item ∈ p.items, ∃ aceito, item.accepted = some aceito ∧
      (aceito = true ↔ ∀ lado, item.aprovadoPor lado = some true)) : p.PelasDecisoes := by
  have aceitos : ∀ item ∈ p.items, item.accepted = some true ↔ ∀ lado, p.Aprovou lado item := by
    intro item mem
    obtain ⟨aceito, is, iff⟩ := itens item mem
    simp [is, Aprovou, aprovaram, iff]
  have ended : p.status ∈ decidida := by
    rw [status]
    exact fechamento_decidida _
  constructor
  case aceitos => exact aceitos
  case antes =>
    apply iff_of_false
    · exact fun before => antes_not_decidida before ended
    · intro none_
      have yes := aprovaram .pastor
      rw [none_] at yes
      cases yes
  case aguarda =>
    intro lado
    apply iff_of_false
    · exact fun same => aguardaOutro_not_decidida lado (same ▸ ended)
    · intro both
      have yes := aprovaram lado.outro
      rw [both.2] at yes
      cases yes
  case aceita =>
    rw [status, fechamento_accepted_iff (by simpa using some_)]
    simp
  case emParte =>
    rw [status, fechamento_partially_iff]
    simp
  case recusada =>
    rw [status, fechamento_rejected_iff]
    constructor
    · intro none_
      refine .inr ⟨aprovaram, fun item mem both => ?_⟩
      exact none_ _ (List.mem_map_of_mem mem) ((aceitos item mem).mpr both)
    · rintro (⟨lado, no⟩ | ⟨_, none_⟩) aceito mem yes
      · rw [aprovaram lado] at no
        cases no
      · obtain ⟨item, mem_item, rfl⟩ := List.mem_map.mp mem
        exact none_ item mem_item ((aceitos item mem_item).mp yes)

/-- The law, from the stage of the request. -/
theorem Etapa.pelasDecisoes (etapa : p.Etapa) (some_ : p.items ≠ []) : p.PelasDecisoes := by
  cases etapa with
  | antes status ninguem itens => exact pelasDecisoes_antes some_ status ninguem itens
  | aguarda lado status aprovou falta itens =>
      exact pelasDecisoes_aguarda some_ lado status aprovou falta itens
  | recusada lado status recusou itens =>
      exact pelasDecisoes_recusada some_ lado status recusou itens
  | fechada status aprovaram itens => exact pelasDecisoes_fechada some_ status aprovaram itens

/-- A decision finds an open request undecided, or the approval of the other side alone. -/
theorem Etapa.aberta (etapa : p.Etapa) (notEnded : p.status ∉ decidida)
    (mine : p.decisao lado = none) :
    p.decisao lado.outro = none ∧ p.status ∈ antesDaDecisao ∨
      p.decisao lado.outro = some true ∧ p.status = lado.outro.aguardaOutro := by
  cases etapa with
  | antes status ninguem itens => exact .inl ⟨ninguem _, status⟩
  | aguarda l status aprovou falta itens =>
      have other : l = lado.outro := by
        cases l <;> cases lado <;> simp_all [LadoDaDecisao.outro]
      exact .inr ⟨other ▸ aprovou, other ▸ status⟩
  | recusada l status recusou itens => exact absurd (status ▸ by simp [decidida]) notEnded
  | fechada status aprovaram itens => exact absurd (status ▸ fechamento_decidida _) notEnded

/-- A decision leads from a stage to a stage. -/
theorem Etapa.decidido (etapa : p.Etapa) (notEnded : p.status ∉ decidida)
    (mine : p.decisao lado = none) : (p.decidido trim lado userId dto agora).Etapa := by
  cases approves : dto.aprova with
  | false =>
      refine .recusada lado (status_recusa approves) (by simp [approves]) fun item mem => ?_
      obtain ⟨old, _, rfl⟩ := List.mem_map.mp mem
      simp [final_recusa approves]
  | true =>
      rcases etapa.aberta notEnded mine with ⟨first, _⟩ | ⟨second, _⟩
      · have alone : p.decisao lado.outro ≠ some true := by simp [first]
        refine .aguarda lado (status_primeira approves alone) (by simp [approves])
          (by simp [first]) fun item mem => ?_
        obtain ⟨old, _, rfl⟩ := List.mem_map.mp mem
        simp [final_primeira approves alone]
      · refine .fechada ?_ ?_ fun item mem => ?_
        · rw [status_decidido, status_segunda approves second, items_decidido, List.map_map]
          congr 2
          funext item
          simp
        · rw [LadoDaDecisao.forall_iff lado]
          simp [approves, second]
        · obtain ⟨old, _, rfl⟩ := List.mem_map.mp mem
          refine ⟨_, by rw [ChurchRequestItem.accepted_marcar, final_segunda approves second], ?_⟩
          rw [LadoDaDecisao.forall_iff lado]
          simp

/-! ### Either order -/

/-- One call of `decidir` on the row: what fails leaves it. -/
def tentar (trim : String → String) (p : ChurchRequest) (lado : LadoDaDecisao) (userId : Id)
    (dto : DecidirDto) (agora : Instant) : ChurchRequest :=
  match p.decidir trim lado userId dto agora with
  | .ok q => q
  | .error _ => p

/-- The request is open to a decision of a side. -/
def Livre (p : ChurchRequest) (lado : LadoDaDecisao) (dto : DecidirDto) : Prop :=
  p.status ∉ decidida ∧ p.decisao lado = none ∧ p.Valida dto

theorem tentar_of_livre (free : p.Livre lado dto) :
    p.tentar trim lado userId dto agora = p.decidido trim lado userId dto agora := by
  unfold tentar
  rw [decidir_eq_ok_iff.mpr ⟨free, rfl⟩]

theorem tentar_of_not_livre (closed : ¬ p.Livre lado dto) :
    p.tentar trim lado userId dto agora = p := by
  unfold tentar
  cases ok : p.decidir trim lado userId dto agora with
  | ok q => exact absurd (decidir_eq_ok_iff.mp ok).1 closed
  | error falha => rfl

/-- A call that fails on an open request fails after the other side's too. -/
theorem not_livre_decidido (closed : ¬ p.Livre lado d) (notEnded : p.status ∉ decidida) :
    ¬ (p.decidido trim lado.outro v e r).Livre lado d := by
  rintro ⟨_, mine, valid⟩
  have kept : (p.decidido trim lado.outro v e r).decisao lado.outro.outro =
      p.decisao lado.outro.outro := decisao_outro_decidido
  rw [LadoDaDecisao.outro_outro] at kept
  exact closed ⟨notEnded, kept ▸ mine, (valida_decidido d).mp valid⟩

/-- A decision that refuses after an approval, or is alone, refuses everything. -/
theorem desfecho_recusa (refuses : d.aprova = false) :
    (p.decidido trim lado u d t).desfecho =
      (.rejected, p.items.map fun item => (item.id, some false)) := by
  simp [desfecho, status_recusa refuses, final_recusa refuses, Function.comp_def]

/-- Two approvals leave what both approve. -/
theorem desfecho_aprovacoes (approves : d.aprova = true) (approves' : e.aprova = true) :
    ((p.decidido trim lado u d t).decidido trim lado.outro v e r).desfecho =
      let aceitos := p.items.map fun item =>
        some (decide (item.id ∈ p.marcados e) && decide (item.id ∈ p.marcados d))
      (fechamento aceitos, (p.items.map ChurchRequestItem.id).zip aceitos) := by
  have second : (p.decidido trim lado u d t).decisao lado.outro.outro = some true := by
    simp [approves]
  have finals : ∀ item : ChurchRequestItem, (p.decidido trim lado u d t).final lado.outro e
      (item.marcar lado (decide (item.id ∈ p.marcados d)) (p.final lado d item)) =
      some (decide (item.id ∈ p.marcados e) && decide (item.id ∈ p.marcados d)) := by
    intro item
    rw [final_segunda approves' second]
    simp
  simp only [desfecho, status_decidido, status_segunda approves' second, items_decidido,
    List.map_map, Function.comp_def, ChurchRequestItem.id_marcar, ChurchRequestItem.accepted_marcar,
    finals, List.zip_map']

/-- What the two decisions make of a request nobody has decided. -/
def conjunto (p : ChurchRequest) (d e : DecidirDto) :
    ChurchRequestStatus × List (Id × Option Bool) :=
  if d.aprova && e.aprova then
    let aceitos := p.items.map fun item =>
      some (decide (item.id ∈ p.marcados e) && decide (item.id ∈ p.marcados d))
    (fechamento aceitos, (p.items.map ChurchRequestItem.id).zip aceitos)
  else (.rejected, p.items.map fun item => (item.id, some false))

theorem conjunto_comm (p : ChurchRequest) (d e : DecidirDto) :
    p.conjunto d e = p.conjunto e d := by
  simp only [conjunto, Bool.and_comm]

theorem desfecho_tentar_tentar (first : p.Livre lado d) (second : p.Livre lado.outro e) :
    ((p.tentar trim lado u d t).tentar trim lado.outro v e r).desfecho = p.conjunto d e := by
  rw [tentar_of_livre first]
  cases approves : d.aprova with
  | false =>
      have closed : ¬ (p.decidido trim lado u d t).Livre lado.outro e := fun free =>
        free.1 (by simp [status_recusa approves, decidida])
      rw [tentar_of_not_livre closed, desfecho_recusa approves]
      simp [conjunto, approves]
  | true =>
      have alone : p.decisao lado.outro ≠ some true := by simp [second.2.1]
      have free : (p.decidido trim lado u d t).Livre lado.outro e := by
        refine ⟨?_, ?_, (valida_decidido e).mpr second.2.2⟩
        · rw [status_decidido, status_primeira approves alone]
          exact aguardaOutro_not_decidida lado
        · rw [decisao_outro_decidido]
          exact second.2.1
      rw [tentar_of_livre free]
      cases approves' : e.aprova with
      | false =>
          rw [desfecho_recusa approves']
          simp [conjunto, approves', Function.comp_def]
      | true =>
          rw [desfecho_aprovacoes approves approves']
          simp [conjunto, approves, approves']

/-- Either order of the two calls has the same outcome, whatever the request has been through. -/
theorem tentar_comm (p : ChurchRequest) (lado : LadoDaDecisao) (u v : Id) (d e : DecidirDto)
    (t r : Instant) :
    ((p.tentar trim lado u d t).tentar trim lado.outro v e r).desfecho =
      ((p.tentar trim lado.outro v e r).tentar trim lado u d t).desfecho := by
  by_cases ended : p.status ∈ decidida
  · rw [tentar_of_not_livre fun free => free.1 ended, tentar_of_not_livre fun free => free.1 ended,
      tentar_of_not_livre fun free => free.1 ended]
  by_cases mine : p.Livre lado d
  · by_cases other : p.Livre lado.outro e
    · have swapped :
          ((p.tentar trim lado.outro v e r).tentar trim lado.outro.outro u d t).desfecho =
            p.conjunto e d :=
        desfecho_tentar_tentar other (by rwa [LadoDaDecisao.outro_outro])
      rw [LadoDaDecisao.outro_outro] at swapped
      rw [desfecho_tentar_tentar mine other, swapped, conjunto_comm]
    · have closed : ¬ (p.decidido trim lado.outro.outro u d t).Livre lado.outro e :=
        not_livre_decidido other ended
      rw [LadoDaDecisao.outro_outro] at closed
      rw [tentar_of_livre mine, tentar_of_not_livre closed, tentar_of_not_livre other,
        tentar_of_livre mine]
  · rw [tentar_of_not_livre mine]
    by_cases other : p.Livre lado.outro e
    · rw [tentar_of_livre other, tentar_of_not_livre (not_livre_decidido mine ended)]
    · rw [tentar_of_not_livre other, tentar_of_not_livre mine]

/-! ### `mudarStatus` -/

theorem mudarStatus_eq_ok_iff {dto : MudarStatusDto} :
    p.mudarStatus trim dto = .ok q ↔
      (mudaSituacao dto p.status → p.status ∈ antesDaDecisao) ∧
        q = p.gravarSituacao trim dto p.status := by
  simp only [mudarStatus, podeMudar, bind_eq_ok_iff, failIf_eq_ok_iff, pure_eq_ok_iff,
    exists_and_left, exists_const, not_and, not_not]
  exact and_congr_right fun _ => eq_comm

/-- What `mudarStatus` writes is a status of before any decision, or the one that was there. -/
theorem status_gravarSituacao {dto : MudarStatusDto} {lido : ChurchRequestStatus} :
    mudaSituacao dto lido ∧ (p.gravarSituacao trim dto lido).status ∈ antesDaDecisao ∨
      ¬ mudaSituacao dto lido ∧ (p.gravarSituacao trim dto lido).status = p.status := by
  by_cases changes : mudaSituacao dto lido
  · obtain ⟨status, given, _⟩ := Option.any_eq_true _ _ |>.mp changes
    refine .inl ⟨changes, ?_⟩
    simp only [gravarSituacao, if_pos changes, given, Option.map_some, Option.getD_some]
    exact status.property
  · exact .inr ⟨changes, if_neg changes⟩

theorem gravarSituacao_decisao {dto : MudarStatusDto} {lido : ChurchRequestStatus} :
    (p.gravarSituacao trim dto lido).decisao lado = p.decisao lado := by
  cases lado <;> rfl

/-- The other columns of the row play no part in its stage. -/
theorem Etapa.congr (etapa : p.Etapa) (decisoes : ∀ lado, q.decisao lado = p.decisao lado)
    (itens : q.items = p.items) (status : q.status = p.status) : q.Etapa := by
  cases etapa with
  | antes before ninguem sem =>
      exact .antes (status ▸ before) (fun lado => (decisoes lado).trans (ninguem lado))
        (itens ▸ sem)
  | aguarda lado waits aprovou falta sem =>
      exact .aguarda lado (status.trans waits) ((decisoes lado).trans aprovou)
        ((decisoes _).trans falta) (itens ▸ sem)
  | recusada lado refused recusou fora =>
      exact .recusada lado (status.trans refused) ((decisoes lado).trans recusou) (itens ▸ fora)
  | fechada closed aprovaram marcas =>
      exact .fechada (by rw [status, itens, closed])
        (fun lado => (decisoes lado).trans (aprovaram lado)) (itens ▸ marcas)

/-- Only a request nobody has decided has a status of before any decision. -/
theorem Etapa.antes_iff (etapa : p.Etapa) :
    p.status ∈ antesDaDecisao ↔ ∀ lado, p.decisao lado = none := by
  cases etapa with
  | antes status ninguem itens => exact iff_of_true status ninguem
  | aguarda lado status aprovou falta itens =>
      refine iff_of_false (fun before => antes_ne_aguardaOutro before lado status) fun none_ => ?_
      rw [none_ lado] at aprovou
      cases aprovou
  | recusada lado status recusou itens =>
      refine iff_of_false (by simp [status, antesDaDecisao]) fun none_ => ?_
      rw [none_ lado] at recusou
      cases recusou
  | fechada status aprovaram itens =>
      refine iff_of_false (fun before => antes_not_decidida before ?_) fun none_ => ?_
      · exact status ▸ fechamento_decidida _
      · have yes := aprovaram .pastor
        rw [none_] at yes
        cases yes

theorem Etapa.mudarStatus {dto : MudarStatusDto} (etapa : p.Etapa)
    (ok : p.mudarStatus trim dto = .ok q) : q.Etapa := by
  obtain ⟨allowed, rfl⟩ := mudarStatus_eq_ok_iff.mp ok
  rcases @status_gravarSituacao trim p dto p.status with
    ⟨changes, before⟩ | ⟨_, same⟩
  · cases etapa with
    | antes status ninguem itens =>
        exact .antes before (fun lado => gravarSituacao_decisao.trans (ninguem lado)) itens
    | aguarda lado status aprovou falta itens =>
        exact absurd status (antes_ne_aguardaOutro (allowed changes) lado)
    | recusada lado status recusou itens =>
        exact absurd (status ▸ by simp [decidida]) (antes_not_decidida (allowed changes))
    | fechada status aprovaram itens =>
        exact absurd (status ▸ fechamento_decidida _) (antes_not_decidida (allowed changes))
  · exact etapa.congr (fun _ => gravarSituacao_decisao) rfl same

end ChurchRequest

/-! ### The table -/

namespace Solicitacoes

variable {trim : String → String} {db : Solicitacoes}

/-- What one call may do to a row. -/
def Escreve (trim : String → String) (acao : Acao) (p q : ChurchRequest) : Prop :=
  (∃ churchId id dto, acao = .mudarStatus churchId id dto ∧ p.mudarStatus trim dto = .ok q) ∨
    ∃ churchId id userId dto agora lado, acao = .decidir churchId id userId dto agora ∧
      p.decidir trim lado userId dto agora = .ok q

theorem pedido?_mem {churchId id : Id} {p : ChurchRequest}
    (found : db.pedido? churchId id = some p) :
    p ∈ db.requests ∧ p.id = id ∧ p.churchId = churchId := by
  obtain ⟨found, church⟩ := Option.filter_eq_some_iff.mp found
  exact ⟨lookup_mem found, lookup_key found, by simpa using church⟩

/-- A step adds an undecided request, writes one row, or leaves the rows alone. -/
theorem step_cases (trim : String → String) (db : Solicitacoes) (acao : Acao) :
    (db.step trim acao).requests = db.requests ∧ db.nextId ≤ (db.step trim acao).nextId ∨
    (∃ novo : ChurchRequest, (db.step trim acao).requests = db.requests ++ [novo] ∧
      novo.id = db.nextId ∧ db.nextId < (db.step trim acao).nextId ∧ novo.items ≠ [] ∧
      novo.Etapa) ∨
    ∃ p ∈ db.requests, ∃ q, Escreve trim acao p q ∧
      (db.step trim acao).requests = updateKey ChurchRequest.id q.id (fun _ => q) db.requests ∧
      (db.step trim acao).nextId = db.nextId := by
  unfold step
  cases ok : db.executar trim acao with
  | error falha => exact .inl ⟨rfl, le_rfl⟩
  | ok depois =>
      cases acao with
      | cadastro painel modulos =>
          obtain rfl := Except.ok.inj ok
          exact .inl ⟨rfl, le_rfl⟩
      | criar userId dto agora =>
          simp only [executar, criar, bind_eq_ok_iff, orFail_eq_ok_iff, failIf_eq_ok_iff,
            pure_eq_ok_iff, exists_and_left, exists_const] at ok
          obtain ⟨igreja, _, _, rfl⟩ := ok
          refine .inr (.inl ⟨_, rfl, rfl, Nat.lt_add_right _ (Nat.lt_succ_self _), ?_,
            .antes ?_ ?_ ?_⟩)
          · simpa [criarItens] using dto.comProduto
          · simp [antesDaDecisao]
          · intro lado
            cases lado <;> rfl
          · intro item mem
            obtain ⟨posicao, _, rfl⟩ := List.mem_mapIdx.mp mem
            rfl
      | mudarStatus churchId id dto =>
          simp only [executar, Solicitacoes.mudarStatus, bind_eq_ok_iff, orFail_eq_ok_iff,
            pure_eq_ok_iff] at ok
          obtain ⟨p, found, q, written, rfl⟩ := ok
          exact .inr (.inr ⟨p, (pedido?_mem found).1, q, .inl ⟨_, _, _, rfl, written⟩, rfl, rfl⟩)
      | decidir churchId id userId dto agora =>
          simp only [executar, Solicitacoes.decidir, bind_eq_ok_iff, orFail_eq_ok_iff,
            pure_eq_ok_iff] at ok
          obtain ⟨lado, _, p, found, q, written, rfl⟩ := ok
          exact .inr (.inr ⟨p, (pedido?_mem found).1, q,
            .inr ⟨_, _, _, _, _, lado, rfl, written⟩, rfl, rfl⟩)

theorem Escreve.id {acao : Acao} {p q : ChurchRequest} (writes : Escreve trim acao p q) :
    q.id = p.id := by
  rcases writes with ⟨_, _, dto, _, ok⟩ | ⟨_, _, _, dto, _, lado, _, ok⟩
  · rw [(ChurchRequest.mudarStatus_eq_ok_iff.mp ok).2]
    rfl
  · rw [(ChurchRequest.decidir_eq_ok_iff.mp ok).2, ChurchRequest.id_decidido]

theorem Escreve.etapa {acao : Acao} {p q : ChurchRequest} (writes : Escreve trim acao p q)
    (etapa : p.Etapa) (some_ : p.items ≠ []) : q.Etapa ∧ q.items ≠ [] := by
  rcases writes with ⟨_, _, dto, _, ok⟩ | ⟨_, _, _, dto, _, lado, _, ok⟩
  · refine ⟨etapa.mudarStatus ok, ?_⟩
    rw [(ChurchRequest.mudarStatus_eq_ok_iff.mp ok).2]
    exact some_
  · obtain ⟨⟨notEnded, mine, _⟩, rfl⟩ := ChurchRequest.decidir_eq_ok_iff.mp ok
    exact ⟨etapa.decidido notEnded mine, by simpa using some_⟩

/-- What one write leaves of the decisions, and of a decided request. -/
theorem Escreve.umaVezSo {acao : Acao} {p q : ChurchRequest} (writes : Escreve trim acao p q) :
    (∀ lado, p.decisao lado ≠ none → q.registro lado = p.registro lado) ∧
      (p.status ∈ decidida → q = { p with response := q.response } ∧
        ∀ churchId id userId dto agora, acao = .decidir churchId id userId dto agora → q = p) := by
  rcases writes with ⟨_, _, dto, rfl, ok⟩ | ⟨_, _, _, dto, _, lado, rfl, ok⟩
  · obtain ⟨allowed, rfl⟩ := ChurchRequest.mudarStatus_eq_ok_iff.mp ok
    refine ⟨fun lado _ => by cases lado <;> rfl, fun ended =>
      ⟨?_, fun _ _ _ _ _ same => by cases same⟩⟩
    have same : ¬ ChurchRequest.mudaSituacao dto p.status := fun changes =>
      ChurchRequest.antes_not_decidida (allowed changes) ended
    simp [ChurchRequest.gravarSituacao, same]
  · obtain ⟨⟨notEnded, mine, _⟩, rfl⟩ := ChurchRequest.decidir_eq_ok_iff.mp ok
    refine ⟨fun l decided => ?_, fun ended => absurd ended notEnded⟩
    have other : l = lado.outro := by
      cases l <;> cases lado <;> simp_all [LadoDaDecisao.outro]
    rw [other]
    exact ChurchRequest.registro_outro_decidido

/-! ### Runs -/

/-- The ids of the schema, and every request at a stage. -/
structure EmDia (db : Solicitacoes) : Prop where
  nodup : (db.requests.map ChurchRequest.id).Nodup
  novos : ∀ p ∈ db.requests, p.id < db.nextId
  etapas : ∀ p ∈ db.requests, p.Etapa ∧ p.items ≠ []

theorem EmDia.step (emDia : db.EmDia) (acao : Acao) : (db.step trim acao).EmDia := by
  rcases step_cases trim db acao with ⟨same, le⟩ | ⟨novo, same, id, lt, some_, etapa⟩ |
    ⟨p, mem, q, writes, same, next⟩
  · exact ⟨same ▸ emDia.nodup, fun p mem => (emDia.novos p (same ▸ mem)).trans_le le,
      same ▸ emDia.etapas⟩
  · refine ⟨?_, ?_, ?_⟩
    · rw [same, List.map_append, List.nodup_append]
      refine ⟨emDia.nodup, by simp, ?_⟩
      simp only [List.mem_map, List.map_cons, List.map_nil, List.mem_singleton]
      rintro _ ⟨p, mem, rfl⟩ _ rfl clash
      exact (emDia.novos p mem).ne (clash.trans id)
    · rw [same]
      simp only [List.mem_append, List.mem_singleton]
      rintro p (mem | rfl)
      · exact (emDia.novos p mem).trans lt
      · exact id ▸ lt
    · rw [same]
      simp only [List.mem_append, List.mem_singleton]
      rintro p (mem | rfl)
      · exact emDia.etapas p mem
      · exact ⟨etapa, some_⟩
  · have keys : (updateKey ChurchRequest.id q.id (fun _ => q) db.requests).map ChurchRequest.id =
        db.requests.map ChurchRequest.id :=
      map_updateKey fun row _ named => named.symm
    refine ⟨by rw [same, keys]; exact emDia.nodup, ?_, ?_⟩
    · rw [same, next]
      intro row changed
      have named := List.mem_map_of_mem (f := ChurchRequest.id) changed
      rw [keys] at named
      obtain ⟨old, mem_old, eq⟩ := List.mem_map.mp named
      exact eq ▸ emDia.novos old mem_old
    · rw [same]
      intro row changed
      rcases mem_updateKey.mp changed with ⟨_, _, _, rfl⟩ | ⟨mem_row, _⟩
      · exact writes.etapa (emDia.etapas p mem).1 (emDia.etapas p mem).2
      · exact emDia.etapas row mem_row

theorem EmDia.umaVezSo (emDia : db.EmDia) (acao : Acao) : UmaVezSo trim db acao := by
  intro p mem
  have unchanged : p ∈ (db.step trim acao).requests → ∃ q ∈ (db.step trim acao).requests,
      q.id = p.id ∧ (∀ lado, p.decisao lado ≠ none → q.registro lado = p.registro lado) ∧
        (p.status ∈ decidida → q = { p with response := q.response } ∧
          ∀ churchId id userId dto agora, acao = .decidir churchId id userId dto agora → q = p) :=
    fun still => ⟨p, still, rfl, fun _ _ => rfl, fun _ => ⟨rfl, fun _ _ _ _ _ _ => rfl⟩⟩
  rcases step_cases trim db acao with
      ⟨same, _⟩ | ⟨novo, same, _⟩ | ⟨old, mem_old, q, writes, same, _⟩
  · exact unchanged (same ▸ mem)
  · exact unchanged (same ▸ List.mem_append_left _ mem)
  · by_cases here : p.id = q.id
    · have is_old : old = p :=
        List.inj_on_of_nodup_map emDia.nodup mem_old mem (writes.id.symm.trans here.symm)
      subst is_old
      refine ⟨q, ?_, writes.id, writes.umaVezSo⟩
      rw [same]
      exact mem_updateKey.mpr (.inl ⟨old, mem, here, rfl⟩)
    · exact unchanged (same ▸ mem_updateKey.mpr (.inr ⟨mem, here⟩))

/-- A call of `decidir` by somebody of a side tries the decision on the row it names. -/
theorem requests_decidir (emDia : db.EmDia) {churchId id userId : Id} {lado : LadoDaDecisao}
    (papel : (db.papel churchId userId).lado = some lado) (dto : DecidirDto) (agora : Instant) :
    (db.step trim (.decidir churchId id userId dto agora)).requests =
      db.requests.map fun p =>
        if p.id = id ∧ p.churchId = churchId then p.tentar trim lado userId dto agora else p := by
  have miss : (∀ p ∈ db.requests, p.id = id → p.churchId = churchId →
      p.tentar trim lado userId dto agora = p) → db.requests = db.requests.map fun p =>
        if p.id = id ∧ p.churchId = churchId then p.tentar trim lado userId dto agora else p := by
    intro fixed
    refine (List.map_id db.requests).symm.trans (List.map_congr_left fun p mem => ?_)
    rw [id_eq]
    split
    · next here => exact (fixed p mem here.1 here.2).symm
    · rfl
  cases found : db.pedido? churchId id with
  | none =>
      have fails : db.step trim (.decidir churchId id userId dto agora) = db := by
        simp only [step, executar, Solicitacoes.decidir, papel, found, orFail, bind, Except.bind]
      rw [fails]
      refine miss fun p mem named church => ?_
      have here := (lookup_eq_some_iff emDia.nodup).mpr ⟨mem, named⟩
      simp [pedido?, here, church] at found
  | some p =>
      obtain ⟨mem, named, church⟩ := pedido?_mem found
      have only : ∀ row ∈ db.requests, row.id = id → row = p := fun row mem_row same =>
        List.inj_on_of_nodup_map emDia.nodup mem_row mem (same.trans named.symm)
      cases ok : p.decidir trim lado userId dto agora with
      | error falha =>
          have fails : db.step trim (.decidir churchId id userId dto agora) = db := by
            simp only [step, executar, Solicitacoes.decidir, papel, found, ok, orFail, bind,
              Except.bind]
          rw [fails]
          refine miss fun row mem_row same _ => ?_
          rw [only row mem_row same]
          simp only [ChurchRequest.tentar, ok]
      | ok q =>
          have done : (db.step trim (.decidir churchId id userId dto agora)) = db.gravar q := by
            simp only [step, executar, Solicitacoes.decidir, papel, found, ok, orFail, bind,
              Except.bind, pure, Except.pure]
          have q_id : q.id = p.id := by
            rw [(ChurchRequest.decidir_eq_ok_iff.mp ok).2, ChurchRequest.id_decidido]
          rw [done, gravar, updateKey, q_id, named]
          refine List.map_congr_left fun row mem_row => ?_
          by_cases here : row.id = id
          · rw [only row mem_row here]
            simp [named, church, ChurchRequest.tentar, ok]
          · simp [here]

theorem EmDia.tantoFazAOrdem (emDia : db.EmDia) : db.TantoFazAOrdem trim := by
  intro churchId id u v pastor tesouraria d e agora depois
  have keeps : ∀ acao, (∃ userId dto t, acao = Acao.decidir churchId id userId dto t) → ∀ c w,
      (db.step trim acao).papel c w = db.papel c w := by
    rintro _ ⟨userId, dto, t, rfl⟩ c w
    unfold Solicitacoes.step
    cases ok : db.executar trim (.decidir churchId id userId dto t) with
    | error falha => rfl
    | ok depois =>
        simp only [executar, Solicitacoes.decidir, bind_eq_ok_iff, orFail_eq_ok_iff,
          pure_eq_ok_iff] at ok
        obtain ⟨_, _, _, _, _, _, rfl⟩ := ok
        rfl
  have kept : ∀ (p : ChurchRequest) lado userId dto t,
      (p.tentar trim lado userId dto t).id = p.id ∧
        (p.tentar trim lado userId dto t).churchId = p.churchId := by
    intro p lado userId dto t
    by_cases free : p.Livre lado dto
    · simp [ChurchRequest.tentar_of_livre free]
    · simp [ChurchRequest.tentar_of_not_livre free]
  dsimp only
  rw [requests_decidir (emDia.step _)
      (show _ = some LadoDaDecisao.tesouraria by rw [keeps _ ⟨_, _, _, rfl⟩]; exact tesouraria),
    requests_decidir emDia pastor, requests_decidir (emDia.step _)
      (show _ = some LadoDaDecisao.pastor by rw [keeps _ ⟨_, _, _, rfl⟩]; exact pastor),
    requests_decidir emDia tesouraria]
  simp only [List.map_map]
  refine List.map_congr_left fun p mem => ?_
  by_cases here : p.id = id ∧ p.churchId = churchId
  · simp only [Function.comp_apply, if_pos here, kept]
    exact ChurchRequest.tentar_comm p .pastor u v d e agora depois
  · simp only [Function.comp_apply, if_neg here]

end Solicitacoes

namespace DoisProdutos

/-- A church with a pastor (1), a treasurer (2) and a member (3). -/
def painel : Painel where
  igrejas := [{ id := 10, name := "Sede", status := .active, spiritualLeaderId := some 1,
                planId := none }]
  planos := []
  pessoas := [{ id := 3, role := 5, email := "", cpf := "", password := "", fullName := "",
                sensiveis := ⟨none, none, none⟩, sensitiveConsentAt := none,
                memberChurchId := some 10, requestedChurchId := none, otherChurchName := none,
                cadastro := [] }]
  bloqueios := []
  churchRoles := [⟨2, 10, 3⟩]
  eventos := []
  eventTreasurers := []
  eventAdmins := []
  inscricoes := []
  esperas := []
  pagamentos := []
  errosDeSenhaAtual := fun _ => none
  nextId := 20

def inicio : Solicitacoes := ⟨painel, fun _ => [.requests], [], 20⟩

/-- Two products asked for: the pastor approves both and the treasury the second. -/
def acoes : List Solicitacoes.Acao :=
  [.criar 3 ⟨"Louvor", "Som", "", [⟨"Cabo", 1, none⟩, ⟨"Mesa", 1, none⟩], by decide⟩ 0,
    .mudarStatus 10 20 ⟨some ⟨.inReview, by decide⟩, none⟩,
    .decidir 10 20 1 ⟨true, none, none⟩ 1,
    .decidir 10 20 2 ⟨true, some [22], none⟩ 2,
    .decidir 10 20 1 ⟨false, none, none⟩ 3]

example : (runFrom (Solicitacoes.step id) inicio acoes).requests.map ChurchRequest.desfecho =
    [(.partiallyAccepted, [(21, some false), (22, some true)])] := by decide

end DoisProdutos

end IccvBackend
