/-
Module: IccvBackend.Proofs.PhotoQueue
Purpose: The photo queue calls each person once, in the order of arrival, and what it means that
  there is nobody waiting.
Trusted boundary: none
Main exports: Balcao.UmaChamadaSo, Balcao.ChamaEmOrdem, Balcao.NinguemEsperava, filaDaFoto_run,
  not_haviaInstanteVazio_chegada
-/
import IccvBackend.Proofs.Counter
import IccvBackend.Lib.Tasks

namespace IccvBackend

open Lib

namespace Balcao

variable (textos : TextosDoBalcao)

/-! ### The law -/

/-- A candidate as a call found her when it tried her. -/
structure Tentativa where
  chamada : Nat
  userId : Id
  status : Option CheckinStatus
deriving DecidableEq

/-- How often a check-in was called since it was last undone or delivered, who was waiting when each
call read its candidates, and how each candidate was found. -/
structure Registro where
  chamados : Id × Id → Nat
  lidos : List (Nat × List CheckinRow)
  tentativas : List Tentativa

def Registro.vazio : Registro := ⟨fun _ => 0, [], []⟩

/-- The participants of an event who are waiting. -/
def esperando (b : Balcao) (eventId : Id) : List CheckinRow :=
  b.checkins.filter fun r => r.eventId = eventId && r.status = .queued

def contar (chamados : Id × Id → Nat) (b : Balcao) (acao : Acao) : Id × Id → Nat :=
  match b.feito? textos acao with
  | none => chamados
  | some (.chamou, chave) => Function.update chamados chave (chamados chave + 1)
  | some (.concluiu, _) => chamados
  | some (_, chave) => Function.update chamados chave 0

def registrar (h : Registro) (b : Balcao) (acao : Acao) (_ : Balcao) : Registro where
  chamados := contar textos h.chamados b acao
  lidos :=
    match acao with
    | .nova _ _ _ => h.lidos
    | .avancar i _ _ =>
        match b.chamadas[i]? with
        | some ⟨eventId, _, .callNext⟩ => h.lidos ++ [(i, b.esperando eventId)]
        | _ => h.lidos
  tentativas :=
    match acao with
    | .nova _ _ _ => h.tentativas
    | .avancar i _ _ =>
        match b.chamadas[i]? with
        | some ⟨eventId, _, .tentarProximo candidatos tentados⟩ =>
            h.tentativas ++ (candidatos[tentados]?.map fun v =>
              ⟨i, v.userId, (b.checkin? v.userId eventId).map fun r => r.status⟩).toList
        | _ => h.tentativas

/-- Between two undos or deliveries a participant is called at most once. -/
def UmaChamadaSo (sh : Balcao × Registro) : Prop := ∀ chave, sh.2.chamados chave ≤ 1

/-- A call tried a candidate and did not find her waiting. -/
def Saiu (h : Registro) (i : Nat) (v : CheckinRow) : Prop :=
  ∃ t ∈ h.tentativas, t.chamada = i ∧ t.userId = v.userId ∧ t.status ≠ some .queued

/-- Whoever is before the participant a `callNext` takes, in the list it read, was not waiting when
it tried her. -/
def ChamaEmOrdem (sh : Balcao × Registro) (acao : Acao) : Prop :=
  ∀ i agora empate c candidatos tentados userId, acao = .avancar i agora empate →
    sh.1.chamadas[i]? = some c → c.ponto = .tentarProximo candidatos tentados →
    (sh.1.avancar textos c agora empate).2 = .fim (.participante userId) →
      ∃ r, candidatos[tentados]? = some r ∧ r.userId = userId ∧
        ∀ v ∈ candidatos, r.porChegada v = false → Saiu sh.2 i v

/-- A `callNext` that answers that nobody is waiting has read who was waiting, and did not find any
of the five who came first waiting when it tried them. -/
def NinguemEsperava (sh : Balcao × Registro) (acao : Acao) : Prop :=
  ∀ i agora empate c candidatos tentados falha, acao = .avancar i agora empate →
    sh.1.chamadas[i]? = some c → c.ponto = .tentarProximo candidatos tentados →
    (sh.1.avancar textos c agora empate).2 = .fim (.recusada falha) →
      ∃ fila, (i, fila) ∈ sh.2.lidos ∧ (∀ v ∈ candidatos, v ∈ fila ∧ Saiu sh.2 i v) ∧
        ∀ r ∈ fila, r ∈ candidatos ∨
          candidatos.length = nextCandidates ∧ ∀ v ∈ candidatos, v.porChegada r

/-! ### Calls and statuses -/

section Chamados

variable {textos}

/-- A participant who was called is not waiting, and has the badge. -/
structure ForaDaFila (sh : Balcao × Registro) : Prop where
  chaves : (sh.1.checkins.map CheckinRow.chave).Nodup
  umaVez : ∀ userId eventId, sh.2.chamados (userId, eventId) = 0 ∨
    sh.2.chamados (userId, eventId) = 1 ∧ ∃ r, sh.1.checkin? userId eventId = some r ∧
      r.status ≠ .queued ∧ r.status ≠ .pending

theorem ForaDaFila.umaChamadaSo {sh : Balcao × Registro} (fora : ForaDaFila sh) :
    UmaChamadaSo sh := by
  rintro ⟨userId, eventId⟩
  rcases fora.umaVez userId eventId with none_ | ⟨one, _⟩ <;> omega

/-- A change of the tables that leaves every status but those of participants not called since. -/
theorem ForaDaFila.mudar {b depois : Balcao} {h h' : Registro} (fora : ForaDaFila (b, h))
    (chaves : (depois.checkins.map CheckinRow.chave).Nodup)
    (step : ∀ userId eventId, h'.chamados (userId, eventId) = 0 ∨
      h'.chamados (userId, eventId) = h.chamados (userId, eventId) ∧
        (∀ r, b.checkin? userId eventId = some r → r.status ≠ .queued → r.status ≠ .pending →
          ∃ r', depois.checkin? userId eventId = some r' ∧ r'.status ≠ .queued ∧
            r'.status ≠ .pending) ∨
      h'.chamados (userId, eventId) = h.chamados (userId, eventId) + 1 ∧
        (∃ r, b.checkin? userId eventId = some r ∧ r.status = .queued) ∧
        ∃ r', depois.checkin? userId eventId = some r' ∧ r'.status ≠ .queued ∧
          r'.status ≠ .pending) :
    ForaDaFila (depois, h') := by
  refine ⟨chaves, fun userId eventId => ?_⟩
  rcases step userId eventId with zero | ⟨same, kept⟩ | ⟨more, ⟨r, found, queued⟩, after⟩
  · exact .inl zero
  · rcases fora.umaVez userId eventId with none_ | ⟨one, r, found, left, delivered⟩
    · exact .inl (same.trans none_)
    · exact .inr ⟨same.trans one, kept r found left delivered⟩
  · rcases fora.umaVez userId eventId with none_ | ⟨_, r', found', left, _⟩
    · refine .inr ⟨?_, after⟩
      dsimp only at none_ more ⊢
      omega
    · obtain rfl := Option.some.inj (found.symm.trans found')
      exact absurd queued left

/-- Recording or releasing a bedroom leaves the statuses. -/
theorem status_comQuarto (b : Balcao) (u e : Id) (autoBedroomId : Option Id) (userId eventId : Id)
    (r : CheckinRow) (found : b.checkin? userId eventId = some r) :
    ∃ r', (b.atualizar u e (.comQuarto autoBedroomId)).checkin? userId eventId = some r' ∧
      r'.status = r.status := by
  rw [checkin?_atualizar (chave_comQuarto _)]
  split
  · next here =>
      obtain ⟨rfl, rfl⟩ := Prod.mk.inj here
      exact ⟨r.comQuarto autoBedroomId, by rw [found, Option.map_some], rfl⟩
  · exact ⟨r, found, rfl⟩

theorem ForaDaFila.step {sh : Balcao × Registro} (fora : ForaDaFila sh) (acao : Acao) :
    ForaDaFila (withHistory (step textos) (registrar textos) sh acao) := by
  obtain ⟨b, h⟩ := sh
  rcases step_cases textos b acao with ⟨chamadas, same, nada, _⟩ |
    ⟨i, agora, empate, c, rfl, at_i, mudanca, same, feito⟩
  · simp only [withHistory, same]
    refine fora.mudar fora.chaves fun userId eventId =>
      .inr (.inl ⟨?_, fun r found left delivered =>
      ⟨r, found, left, delivered⟩⟩)
    simp only [registrar, contar, nada]
  · simp only [withHistory, same]
    suffices ForaDaFila ((b.avancar textos c agora empate).1,
        ⟨contar textos h.chamados b (.avancar i agora empate), [], []⟩) from
      ⟨this.chaves, this.umaVez⟩
    simp only [contar, feito]
    generalize (b.avancar textos c agora empate).1 = depois at mudanca
    generalize (b.avancar textos c agora empate).2 = ponto at mudanca
    have chaves := mudanca.chaves fora.chaves
    -- what leaves the statuses leaves the count
    have quiet : (∀ userId eventId r, b.checkin? userId eventId = some r →
        ∃ r', depois.checkin? userId eventId = some r' ∧ r'.status = r.status) →
        ForaDaFila (depois, (⟨h.chamados, [], []⟩ : Registro)) := by
      intro kept
      refine fora.mudar chaves fun userId eventId =>
        .inr (.inl ⟨rfl, fun r found left delivered => ?_⟩)
      obtain ⟨r', found', status⟩ := kept userId eventId r found
      exact ⟨r', found', status ▸ left, status ▸ delivered⟩
    cases mudanca with
    | leu nada livre segue =>
        rw [nada]
        exact quiet fun _ _ r found => ⟨r, found, rfl⟩
    | criou userId agora' de absent =>
        rw [de]
        simp only [feitoDe, Option.map_some]
        refine fora.mudar chaves fun u e => ?_
        by_cases here : (u, e) = (userId, c.eventId)
        · exact .inl (by simp [here])
        · refine .inr (.inl ⟨Function.update_of_ne here _ _, fun r found left delivered =>
            ⟨r, ?_, left, delivered⟩⟩)
          obtain ⟨mem, named⟩ := (lookup_eq_some_iff fora.chaves).mp found
          exact (lookup_eq_some_iff chaves).mpr ⟨List.mem_append_left _ mem, named⟩
    | @gravou _ f userId r g of_feito achado grava lido solta segue =>
        rw [of_feito]
        simp only [Option.map_some]
        have other : ∀ u e, (u, e) ≠ (userId, c.eventId) → ∀ row, b.checkin? u e = some row →
            row.status ≠ .queued → row.status ≠ .pending → ∃ r',
              (b.atualizar userId c.eventId g).checkin? u e = some r' ∧ r'.status ≠ .queued ∧
                r'.status ≠ .pending := by
          intro u e away row found left delivered
          refine ⟨row, ?_, left, delivered⟩
          rwa [checkin?_atualizar grava.chave, if_neg away]
        have mine : (b.atualizar userId c.eventId g).checkin? userId c.eventId = some (g r) := by
          rw [checkin?_atualizar grava.chave, if_pos rfl, achado, Option.map_some]
        refine fora.mudar chaves fun u e => ?_
        by_cases here : (u, e) = (userId, c.eventId)
        · obtain ⟨rfl, rfl⟩ := Prod.mk.inj here
          generalize status : r.status = before at grava
          cases grava with
          | entregou => exact .inl (by simp)
          | desfez => exact .inl (by simp)
          | reverteu => exact .inl (by simp)
          | concluiu operatorId agora' notes esperado =>
              exact .inr (.inl ⟨rfl, fun _ _ _ _ => ⟨_, mine, by simp [CheckinRow.concluir],
                by simp [CheckinRow.concluir]⟩⟩)
          | chamou operatorId agora' =>
              exact .inr (.inr ⟨by simp, ⟨r, achado, status⟩, _, mine, by simp [CheckinRow.chamar],
                by simp [CheckinRow.chamar]⟩)
        · have kept := other u e here
          cases f with
          | concluiu => exact .inr (.inl ⟨rfl, kept⟩)
          | _ => exact .inr (.inl ⟨Function.update_of_ne here _ _, kept⟩)
    | ocupou userId quarto quartos de cabe nova =>
        rw [de]
        exact quiet fun _ _ r found => ⟨r, found, rfl⟩
    | liberou userId bedroomId de =>
        rw [de]
        exact quiet fun _ _ r found => ⟨r, found, rfl⟩
    | registrou userId bedroomId de =>
        rw [de]
        exact quiet (status_comQuarto b userId c.eventId _)
    | limpou userId de =>
        rw [de]
        exact quiet (status_comQuarto b userId c.eventId _)

end Chamados

/-! ### The candidates of a call -/

section Candidatos

variable {textos} {b : Balcao} {h h' : Registro} {c : Chamada} {i : Nat}

theorem porChegada_trans (a b c : CheckinRow) (ab : a.porChegada b) (bc : b.porChegada c) :
    a.porChegada c := by
  unfold CheckinRow.porChegada at *
  cases x : a.badgeDeliveredAt <;> cases y : b.badgeDeliveredAt <;>
    cases z : c.badgeDeliveredAt <;> simp only [x, y, z, decide_eq_true_eq, reduceCtorEq] at ab bc ⊢
  exact le_trans ab bc

theorem porChegada_total (a b : CheckinRow) : (a.porChegada b || b.porChegada a) = true := by
  unfold CheckinRow.porChegada
  cases a.badgeDeliveredAt <;> cases b.badgeDeliveredAt <;> simp
  exact le_total _ _

theorem fila_pairwise (b : Balcao) (eventId : Id) (empate : CheckinRow → Nat) :
    (b.fila eventId empate).Pairwise fun a r => a.porChegada r :=
  (List.pairwise_mergeSort porChegada_trans porChegada_total _).sublist (List.take_sublist _ _)

theorem mem_esperando_of_fila {eventId : Id} {empate : CheckinRow → Nat} {r : CheckinRow}
    (mem : r ∈ b.fila eventId empate) : r ∈ b.esperando eventId :=
  List.mem_mergeSort.mp (List.mem_mergeSort.mp (List.mem_of_mem_take mem))

/-- Whoever is waiting and is not a candidate came no earlier than the five who are. -/
theorem fila_completa {eventId : Id} {empate : CheckinRow → Nat} {r : CheckinRow}
    (waiting : r ∈ b.esperando eventId) :
    r ∈ b.fila eventId empate ∨ (b.fila eventId empate).length = nextCandidates ∧
      ∀ v ∈ b.fila eventId empate, v.porChegada r := by
  generalize sorted : ((b.esperando eventId).mergeSort
    (fun r r' => empate r ≤ empate r')).mergeSort CheckinRow.porChegada = rows
  have is : b.fila eventId empate = rows.take nextCandidates := by
    rw [← sorted]
    rfl
  have mem : r ∈ rows := sorted ▸ List.mem_mergeSort.mpr (List.mem_mergeSort.mpr waiting)
  have inOrder : rows.Pairwise fun a r => a.porChegada r :=
    sorted ▸ List.pairwise_mergeSort porChegada_trans porChegada_total _
  rw [is]
  rw [← List.take_append_drop nextCandidates rows] at mem inOrder
  rcases List.mem_append.mp mem with taken | left
  · exact .inl taken
  · refine .inr ⟨?_, fun v mem_v => (List.pairwise_append.mp inOrder).2.2 v mem_v r left⟩
    have more := List.length_pos_of_mem left
    rw [List.length_drop] at more
    rw [List.length_take]
    omega

/-- A call that tries candidates has just read them, or did not find the last one it tried
waiting. -/
theorem avancar_tentarProximo {agora : Instant} {empate : CheckinRow → Nat}
    {candidatos : List CheckinRow} {tentados : Nat}
    (next : (b.avancar textos c agora empate).2 = .tentarProximo candidatos tentados) :
    c.ponto = .callNext ∧ candidatos = b.fila c.eventId empate ∧ tentados = 0 ∨
      ∃ feitos v, c.ponto = .tentarProximo candidatos feitos ∧ tentados = feitos + 1 ∧
        candidatos[feitos]? = some v ∧
        (b.checkin? v.userId c.eventId).map (fun r => r.status) ≠ some .queued := by
  have same := trilha_avancar textos b c agora empate
  rw [next] at same
  obtain ⟨eventId, operatorId, ponto⟩ := c
  cases ponto with
  | call userId =>
      simp only [avancar, avancarFoto] at next
      split at next <;> cases next
  | callRecusado userId => cases next
  | callNext =>
      simp only [avancar, avancarFoto, Ponto.tentarProximo.injEq] at next
      obtain ⟨rfl, rfl⟩ := next
      exact .inl ⟨rfl, rfl, rfl⟩
  | tentarProximo lidos feitos =>
      simp only [avancar, avancarFoto] at next
      split at next
      · cases next
      · next v at_feitos =>
          split at next
          · cases next
          · next missed =>
              obtain ⟨rfl, rfl⟩ := Ponto.tentarProximo.inj next
              refine .inr ⟨feitos, v, rfl, rfl, at_feitos, fun waiting => ?_⟩
              obtain ⟨r, found, queued⟩ := Option.map_eq_some_iff.mp waiting
              simpa [queued] using atualizarSe_eq_none missed found
  | _ => simp [Ponto.trilha] at same

/-- The candidates a call tries are the first of those waiting when it read them, in the order they
came, and it did not find those it has tried waiting. -/
def Tentando (h : Registro) (i : Nat) (candidatos : List CheckinRow) (tentados : Nat) : Prop :=
  ∃ fila, (i, fila) ∈ h.lidos ∧ (∀ v ∈ candidatos, v ∈ fila) ∧
    (∀ r ∈ fila, r ∈ candidatos ∨
      candidatos.length = nextCandidates ∧ ∀ v ∈ candidatos, v.porChegada r) ∧
    (candidatos.Pairwise fun a r => a.porChegada r) ∧
    ∀ j < tentados, ∀ v, candidatos[j]? = some v → Saiu h i v

def TentamEmOrdem (sh : Balcao × Registro) : Prop :=
  ∀ i c candidatos tentados, sh.1.chamadas[i]? = some c →
    c.ponto = .tentarProximo candidatos tentados → Tentando sh.2 i candidatos tentados

theorem Saiu.mono {v : CheckinRow} (left : Saiu h i v)
    (more : ∀ t ∈ h.tentativas, t ∈ h'.tentativas) : Saiu h' i v := by
  obtain ⟨t, mem, is⟩ := left
  exact ⟨t, more t mem, is⟩

theorem Tentando.mono {candidatos : List CheckinRow} {tentados : Nat}
    (tries : Tentando h i candidatos tentados) (read : ∀ l ∈ h.lidos, l ∈ h'.lidos)
    (tried : ∀ t ∈ h.tentativas, t ∈ h'.tentativas) : Tentando h' i candidatos tentados := by
  obtain ⟨fila, mem, inside, others, inOrder, left⟩ := tries
  exact ⟨fila, read _ mem, inside, others, inOrder, fun j lt v at_j =>
    (left j lt v at_j).mono tried⟩

/-- What was read and tried stays on record. -/
theorem registrar_mono (textos : TextosDoBalcao) (h : Registro) (b depois : Balcao) (acao : Acao) :
    (∀ l ∈ h.lidos, l ∈ (registrar textos h b acao depois).lidos) ∧
      ∀ t ∈ h.tentativas, t ∈ (registrar textos h b acao depois).tentativas := by
  cases acao with
  | nova eventId operatorId pedido => exact ⟨fun _ mem => mem, fun _ mem => mem⟩
  | avancar i agora empate =>
      constructor
      · intro l mem
        simp only [registrar]
        split
        · exact List.mem_append_left _ mem
        · exact mem
      · intro t mem
        simp only [registrar]
        split
        · exact List.mem_append_left _ mem
        · exact mem

theorem TentamEmOrdem.step {sh : Balcao × Registro} (emOrdem : TentamEmOrdem sh) (acao : Acao) :
    TentamEmOrdem (withHistory (Balcao.step textos) (registrar textos) sh acao) := by
  obtain ⟨b, h⟩ := sh
  obtain ⟨read, tried⟩ := registrar_mono textos h b (b.step textos acao) acao
  intro j d candidatos tentados at_j tries
  simp only [withHistory] at at_j ⊢
  rcases step_cases textos b acao with ⟨chamadas, same, _, calls⟩ |
    ⟨i, agora, empate, c, rfl, at_i, _, same, _⟩
  · rw [same] at at_j
    rcases calls with rfl | ⟨eventId, operatorId, pedido, _, rfl⟩
    · exact (emOrdem j d candidatos tentados at_j tries).mono read tried
    · rcases getElem?_begun at_j with was | ⟨_, rfl⟩
      · exact (emOrdem j d candidatos tentados was tries).mono read tried
      · cases pedido <;> cases tries
  · rw [same] at at_j
    rcases getElem?_moved at_j with ⟨here, rfl⟩ | ⟨_, was⟩
    · obtain rfl := here.symm
      obtain ⟨eventId, operatorId, ponto⟩ := c
      rcases avancar_tentarProximo tries with ⟨starts, rfl, rfl⟩ | ⟨feitos, v, was, rfl, at_v, left⟩
      · obtain rfl : ponto = .callNext := starts
        refine ⟨b.esperando eventId, ?_, fun v mem => mem_esperando_of_fila mem,
          fun r waiting => fila_completa waiting, fila_pairwise _ _ _, fun j lt =>
            absurd lt (by simp)⟩
        simp only [registrar, at_i]
        exact List.mem_append_right _ (List.mem_singleton_self _)
      · obtain rfl : ponto = .tentarProximo candidatos feitos := was
        obtain ⟨fila, mem, inside, others, inOrder, before⟩ :=
          emOrdem i _ candidatos feitos at_i rfl
        refine ⟨fila, read _ mem, inside, others, inOrder, fun j lt v' at_v' => ?_⟩
        rcases Nat.lt_succ_iff_lt_or_eq.mp lt with earlier | rfl
        · exact (before j earlier v' at_v').mono tried
        · obtain rfl := Option.some.inj (at_v.symm.trans at_v')
          refine ⟨⟨i, v.userId, (b.checkin? v.userId eventId).map fun r => r.status⟩, ?_, rfl, rfl,
            left⟩
          simp only [registrar, at_i, at_v]
          exact List.mem_append_right _ (List.mem_singleton_self _)
    · exact (emOrdem j d candidatos tentados was tries).mono read tried

/-- The one taken is the first who had not left. -/
theorem TentamEmOrdem.chama {sh : Balcao × Registro} (emOrdem : TentamEmOrdem sh) (acao : Acao) :
    ChamaEmOrdem textos sh acao := by
  intro i agora empate c candidatos tentados userId _ at_i tries takes
  obtain ⟨fila, _, _, _, inOrder, before⟩ := emOrdem i c candidatos tentados at_i tries
  simp only [avancar, tries, avancarFoto] at takes
  split at takes
  · cases takes
  · next r at_r =>
      split at takes
      · obtain rfl : r.userId = userId := by simpa using takes
        refine ⟨r, at_r, rfl, fun v mem later => ?_⟩
        obtain ⟨j, at_j⟩ := List.mem_iff_getElem?.mp mem
        refine before j ?_ v at_j
        by_contra after
        obtain ⟨lt_r, is_r⟩ := List.getElem?_eq_some_iff.mp at_r
        obtain ⟨lt_j, is_j⟩ := List.getElem?_eq_some_iff.mp at_j
        rcases (Nat.le_of_not_lt after).lt_or_eq with gt | rfl
        · have ordered := List.pairwise_iff_getElem.mp inOrder tentados j lt_r lt_j gt
          rw [is_r, is_j, later] at ordered
          cases ordered
        · obtain rfl := Option.some.inj (at_r.symm.trans at_j)
          have itself := porChegada_total r r
          simp [later] at itself
      · cases takes

/-- The answer that nobody is waiting comes after all candidates. -/
theorem TentamEmOrdem.ninguem {sh : Balcao × Registro} (emOrdem : TentamEmOrdem sh) (acao : Acao) :
    NinguemEsperava textos sh acao := by
  intro i agora empate c candidatos tentados falha _ at_i tries answers
  obtain ⟨fila, mem, inside, others, _, before⟩ := emOrdem i c candidatos tentados at_i tries
  refine ⟨fila, mem, fun v mem_v => ⟨inside v mem_v, ?_⟩, others⟩
  simp only [avancar, tries, avancarFoto] at answers
  split at answers
  · next past =>
      obtain ⟨j, at_j⟩ := List.mem_iff_getElem?.mp mem_v
      refine before j ?_ v at_j
      have bound := List.getElem?_eq_none_iff.mp past
      exact lt_of_lt_of_le (List.getElem?_eq_some_iff.mp at_j).1 bound
  · split at answers <;> cases answers

end Candidatos

end Balcao

/-- In a run from a counter nobody has come to: a participant is called at most once between two
undos or deliveries; whoever is before the one a `callNext` takes had left the queue when it tried
her; and a `callNext` answers that nobody is waiting only when it found none of the first five of
those who were waiting at its read still waiting. -/
theorem filaDaFoto_run (textos : TextosDoBalcao) {b : Balcao} (vazio : b.checkins = [])
    (parado : b.chamadas = []) (acoes : List Balcao.Acao) :
    Always (withHistory (Balcao.step textos) (Balcao.registrar textos)) Balcao.UmaChamadaSo
        (b, .vazio) acoes ∧
      EachStep (withHistory (Balcao.step textos) (Balcao.registrar textos))
        (fun sh acao => Balcao.ChamaEmOrdem textos sh acao ∧ Balcao.NinguemEsperava textos sh acao)
        (b, .vazio) acoes := by
  have chamados : Balcao.ForaDaFila (b, .vazio) := ⟨by simp [vazio], fun _ _ => .inl rfl⟩
  have candidatos : Balcao.TentamEmOrdem (b, .vazio) := by
    intro i c _ _ at_i
    simp [parado] at at_i
  refine ⟨?_, ?_⟩
  · exact (always_of_step (fun _ acao fora => fora.step acao) chamados acoes).mono
      fun _ fora => fora.umaChamadaSo
  · exact (always_of_step (fun _ acao emOrdem => emOrdem.step acao) candidatos acoes).eachStep
      fun _ acao emOrdem => ⟨emOrdem.chama acao, emOrdem.ninguem acao⟩

namespace Chegada

open DoisInscritos

/-- A `callNext` reads 1; the badge of 2 is delivered, 1 is called, and only then it tries 1. -/
def acoes : List Balcao.Acao :=
  [pedir (.deliverBadge 1), passo 0, passo 0, pedir .callNext, passo 1,
    pedir (.deliverBadge 2), passo 2, passo 2, pedir (.call 1), passo 3, passo 1, passo 1]

end Chegada

/-- From the read of the `callNext` to its answer that nobody is waiting, somebody is. -/
theorem not_haviaInstanteVazio_chegada :
    ((runFrom (Balcao.step DoisInscritos.textos)
      DoisInscritos.inicio Chegada.acoes).chamadas[1]?.map Balcao.Chamada.ponto =
      some (.fim (.recusada (notFound "Não há ninguém aguardando na fila")))) ∧
    Always (Balcao.step DoisInscritos.textos) (fun b => b.esperando 5 ≠ [])
      (runFrom (Balcao.step DoisInscritos.textos) DoisInscritos.inicio (Chegada.acoes.take 4))
      (Chegada.acoes.drop 4) := by
  refine ⟨by decide +kernel, ?_⟩
  simp only [Chegada.acoes, List.drop, always_cons, always_nil]
  decide +kernel

theorem filaDaFoto_run_chegada :
    Always (withHistory (Balcao.step DoisInscritos.textos)
        (Balcao.registrar DoisInscritos.textos)) Balcao.UmaChamadaSo (DoisInscritos.inicio, .vazio)
        Chegada.acoes ∧
      EachStep (withHistory (Balcao.step DoisInscritos.textos)
          (Balcao.registrar DoisInscritos.textos))
        (fun sh acao => Balcao.ChamaEmOrdem DoisInscritos.textos sh acao ∧
          Balcao.NinguemEsperava DoisInscritos.textos sh acao) (DoisInscritos.inicio, .vazio)
        Chegada.acoes :=
  filaDaFoto_run DoisInscritos.textos rfl rfl Chegada.acoes

end IccvBackend
