/-
Module: IccvBackend.Proofs.AutoBedrooms
Purpose: The bedrooms the counter gives by itself respect capacity and groups, and when they are
  given back.
Trusted boundary: none
Main exports: Balcao.RespeitaOQuarto, Balcao.DevolveSeNaoChegou, Balcao.NaoPerdeQuarto,
  quartoAutomatico_run, not_devolveSeNaoChegou_retornoNoMeio
-/
import IccvBackend.Proofs.Counter
import IccvBackend.Lib.Tasks

namespace IccvBackend

open Lib

namespace Balcao

variable (textos : TextosDoBalcao)

/-! ### The law -/

/-- A bedroom as a call found it: which call, and how many people it had. -/
structure Visto where
  chamada : Nat
  quarto : Bedroom
  ocupantes : Nat
deriving DecidableEq

/-- The bedrooms each call looked at, and who holds, for which event, a bedroom assigned
automatically and not released since. -/
structure Memoria where
  vistos : List Visto
  automaticas : List (Id × Id × Id)

def Memoria.vazia : Memoria := ⟨[], []⟩

/-- A call looks at every bedroom. -/
def Memoria.leu (h : Memoria) (b : Balcao) (i : Nat) : Memoria :=
  { h with vistos := h.vistos ++
      b.bedrooms.map fun quarto => ⟨i, quarto, b.casa.ocupantes quarto.id⟩ }

/-- The whole list of bedrooms is looked at when the candidates are read, and each candidate again
under the lock. -/
def memorizar (h : Memoria) (b : Balcao) (acao : Acao) (depois : Balcao) : Memoria :=
  match acao with
  | .nova _ _ _ => h
  | .avancar i _ _ =>
      match b.chamadas[i]? with
      | none => h
      | some c =>
          match c.ponto with
          | .candidatos _ => h.leu b i
          | .alocar userId (quarto :: _) =>
              { vistos := h.vistos ++ [⟨i, quarto, b.casa.ocupantes quarto.id⟩]
                automaticas :=
                  if (⟨userId, quarto.id⟩ : BedroomOnUser) ∈ depois.bedroomsOnUsers ∧
                      ⟨userId, quarto.id⟩ ∉ b.bedroomsOnUsers then
                    h.automaticas ++ [(userId, c.eventId, quarto.id)]
                  else h.automaticas }
          | .liberar userId bedroomId =>
              { h with automaticas := h.automaticas.filter fun a =>
                  ¬ (a.1 = userId ∧ a.2.2 = bedroomId) }
          | _ => h

/-- Nobody else fits, or nobody knows how many fit. -/
def Visto.semVaga (v : Visto) : Bool :=
  !v.quarto.capacity.any fun capacity => capacity ≠ 0 && (v.ocupantes : Int) < capacity

/-- The bedroom has a tag of a group of the person. -/
def doGrupo (b : Balcao) (eventId userId : Id) (quarto : Bedroom) : Prop :=
  ∃ tag ∈ quarto.groupTags, tag ∈ b.casa.gruposDe eventId userId

/-- A bed assigned automatically is within the capacity of the bedroom, which is one of the person's
groups, or an open one when this call found every bedroom of the event for the person's groups
without a place. -/
def RespeitaOQuarto (sh : Balcao × Memoria) (acao : Acao) : Prop :=
  ∀ i agora empate c userId quarto quartos, acao = .avancar i agora empate →
    sh.1.chamadas[i]? = some c → c.ponto = .alocar userId (quarto :: quartos) →
    (sh.1.avancar textos c agora empate).2 = .registrar userId quarto.id →
      quarto ∈ sh.1.bedrooms ∧ quarto.eventId = c.eventId ∧
      (∃ capacity, quarto.capacity = some capacity ∧
        ((sh.1.step textos acao).casa.ocupantes quarto.id : Int) ≤ capacity) ∧
      (sh.1.doGrupo c.eventId userId quarto ∨
        quarto.groupTags = [] ∧ ∀ outro ∈ sh.1.bedrooms, outro.eventId = c.eventId →
          sh.1.doGrupo c.eventId userId outro →
            ∃ v ∈ (memorizar sh.2 sh.1 acao (sh.1.step textos acao)).vistos,
              v.chamada = i ∧ v.quarto = outro ∧ v.semVaga)

/-- When all calls are over, whoever has not arrived has no bedroom assigned automatically. -/
def DevolveSeNaoChegou (sh : Balcao × Memoria) : Prop :=
  (∀ c ∈ sh.1.chamadas, ∃ resposta, c.ponto = .fim resposta) →
    ∀ r ∈ sh.1.checkins, r.status = .pending → r.autoBedroomId = none ∧
      ∀ bedroomId, (r.userId, r.eventId, bedroomId) ∉ sh.2.automaticas

/-- The next write of a call loses sight of no bedroom: an undo takes the badge back while the
record names no bedroom but the one it has read, a bedroom is recorded for somebody whose badge is
delivered, and neither that write nor the end of a release erases another bedroom the person is
in. -/
def NaoPerde (b : Balcao) (c : Chamada) : Prop :=
  match c.ponto with
  | .desfazer userId atual => ∀ r ∈ b.checkin? userId c.eventId,
      r.status = .queued → atual.status = .queued →
        r.autoBedroomId = none ∨ r.autoBedroomId = atual.autoBedroomId
  | .reverter userId lido => ∀ r ∈ b.checkin? userId c.eventId,
      r.status ≠ .pending → r.autoBedroomId = none ∨ r.autoBedroomId = lido
  | .registrar userId bedroomId => ∀ r ∈ b.checkin? userId c.eventId,
      r.status ≠ .pending ∧ ∀ outro ∈ r.autoBedroomId,
        outro = bedroomId ∨ ⟨userId, outro⟩ ∉ b.bedroomsOnUsers
  | .limpar userId => ∀ r ∈ b.checkin? userId c.eventId,
      ∀ outro ∈ r.autoBedroomId, ⟨userId, outro⟩ ∉ b.bedroomsOnUsers
  | _ => True

instance (b : Balcao) (c : Chamada) : Decidable (NaoPerde b c) := by
  unfold NaoPerde
  split <;> infer_instance

def NaoPerdeQuarto (b : Balcao) : Acao → Prop
  | .nova _ _ _ => True
  | .avancar i _ _ => ∀ c ∈ b.chamadas[i]?, NaoPerde b c

instance (b : Balcao) : ∀ acao, Decidable (NaoPerdeQuarto b acao)
  | .nova _ _ _ => inferInstanceAs (Decidable True)
  | .avancar i _ _ => inferInstanceAs (Decidable (∀ c ∈ b.chamadas[i]?, NaoPerde b c))

/-! ### What a statement leaves alone -/

section Tabelas

variable {textos} {b depois : Balcao} {c : Chamada} {ponto : Ponto}

theorem Mudanca.cadastro (mudanca : Mudanca b c ponto depois) :
    depois.db = b.db ∧ depois.bedrooms = b.bedrooms ∧ depois.desligados = b.desligados := by
  cases mudanca <;> exact ⟨rfl, rfl, rfl⟩

theorem doGrupo_congr (db : depois.db = b.db) (eventId userId : Id) (quarto : Bedroom) :
    depois.doGrupo eventId userId quarto ↔ b.doGrupo eventId userId quarto := by
  unfold doGrupo
  have groups : depois.casa.gruposDe eventId userId = b.casa.gruposDe eventId userId := by
    simp only [Hospedagem.gruposDe, casa, db]
  rw [groups]

end Tabelas

/-! ### The candidates of a call -/

/-- The bedrooms a call still has to try: those of the person's groups, then the open ones, all of
the event and with a capacity.  A bedroom of the groups that is not among them was found full. -/
def NaOrdem (sh : Balcao × Memoria) (i : Nat) (eventId userId : Id) (quartos : List Bedroom) :
    Prop :=
  ∃ grupo abertos, quartos = grupo ++ abertos ∧
    (∀ quarto ∈ grupo, sh.1.doGrupo eventId userId quarto) ∧
    (∀ quarto ∈ abertos, quarto.groupTags = []) ∧
    (∀ quarto ∈ quartos, quarto ∈ sh.1.bedrooms ∧ quarto.eventId = eventId ∧
      quarto.capacity.isSome) ∧
    ∀ outro ∈ sh.1.bedrooms, outro.eventId = eventId → sh.1.doGrupo eventId userId outro →
      outro ∈ grupo ∨ ∃ v ∈ sh.2.vistos, v.chamada = i ∧ v.quarto = outro ∧ v.semVaga

/-- The calls about to try a bedroom try them in order. -/
def EmOrdemDeTentar (sh : Balcao × Memoria) : Prop :=
  ∀ i c userId quartos, sh.1.chamadas[i]? = some c → c.ponto = .alocar userId quartos →
    NaOrdem sh i c.eventId userId quartos

section Candidatos

variable {textos} {b : Balcao} {h : Memoria}

/-- More seen, and the same people and bedrooms, leave a call in order. -/
theorem NaOrdem.mono {b' : Balcao} {h' : Memoria} {i : Nat} {eventId userId : Id}
    {quartos : List Bedroom} (inOrder : NaOrdem (b, h) i eventId userId quartos)
    (db : b'.db = b.db) (bedrooms : b'.bedrooms = b.bedrooms)
    (seen : ∀ v ∈ h.vistos, v ∈ h'.vistos) : NaOrdem (b', h') i eventId userId quartos := by
  obtain ⟨grupo, abertos, parts, ofGroup, opened, inEvent, others⟩ := inOrder
  refine ⟨grupo, abertos, parts, fun quarto mem =>
    (doGrupo_congr db _ _ _).mpr (ofGroup quarto mem),
    opened, fun quarto mem => by rw [bedrooms]; exact inEvent quarto mem, ?_⟩
  intro outro mem event fits
  rw [bedrooms] at mem
  rcases others outro mem event ((doGrupo_congr db _ _ _).mp fits) with here | ⟨v, mem_v, is⟩
  · exact .inl here
  · exact .inr ⟨v, seen v mem_v, is⟩

/-- The list just read is in order. -/
theorem naOrdem_candidateBedrooms (b : Balcao) (h : Memoria) (i : Nat) (eventId userId : Id)
    (porNome : String → String → Bool) :
    NaOrdem (b, h.leu b i) i eventId userId
      (b.casa.candidateBedrooms porNome eventId (b.casa.gruposDe eventId userId)) := by
  refine ⟨_, _, rfl, ?_, ?_, ?_, ?_⟩
  · intro quarto mem
    obtain ⟨_, tags⟩ := List.mem_filter.mp (List.mem_mergeSort.mp mem)
    simpa [doGrupo] using tags
  · intro quarto mem
    obtain ⟨_, tags⟩ := List.mem_filter.mp (List.mem_mergeSort.mp mem)
    simpa using tags
  · intro quarto mem
    have roomy : quarto ∈ b.bedrooms.filter fun quarto =>
        quarto.eventId = eventId && quarto.capacity.any fun capacity =>
          capacity ≠ 0 && (b.casa.ocupantes quarto.id : Int) < capacity := by
      rcases List.mem_append.mp mem with group | opened
      · exact (List.mem_filter.mp (List.mem_mergeSort.mp group)).1
      · exact (List.mem_filter.mp (List.mem_mergeSort.mp opened)).1
    obtain ⟨mem_b, fits⟩ := List.mem_filter.mp roomy
    rw [Bool.and_eq_true] at fits
    refine ⟨mem_b, of_decide_eq_true fits.1, ?_⟩
    cases has : quarto.capacity with
    | none => simp [has] at fits
    | some capacity => rfl
  · intro outro mem event fits
    by_cases room : outro.capacity.any fun capacity =>
        capacity ≠ 0 && (b.casa.ocupantes outro.id : Int) < capacity
    · refine .inl (List.mem_mergeSort.mpr (List.mem_filter.mpr ⟨List.mem_filter.mpr ⟨mem, ?_⟩, ?_⟩))
      · simp only [Bool.and_eq_true, decide_eq_true_eq]
        exact ⟨event, room⟩
      · simpa [doGrupo] using fits
    · refine .inr ⟨⟨i, outro, b.casa.ocupantes outro.id⟩, ?_, rfl, rfl, ?_⟩
      · exact List.mem_append_right _ (List.mem_map.mpr ⟨outro, mem, rfl⟩)
      · simpa [Visto.semVaga] using room

/-- What was seen stays seen. -/
theorem vistos_memorizar (h : Memoria) (b depois : Balcao) (acao : Acao) :
    ∀ v ∈ h.vistos, v ∈ (memorizar h b acao depois).vistos := by
  intro v mem
  unfold memorizar
  split
  · exact mem
  · split
    · exact mem
    · split
      · exact List.mem_append_left _ mem
      · exact List.mem_append_left _ mem
      · exact mem
      · exact mem

/-- A call that goes on to the next bedroom has just found this one full. -/
theorem NaOrdem.tail {i : Nat} {eventId userId : Id} {quarto : Bedroom} {quartos : List Bedroom}
    (inOrder : NaOrdem (b, h) i eventId userId (quarto :: quartos)) {h' : Memoria}
    (seen : ∀ v ∈ h.vistos, v ∈ h'.vistos)
    (now : (⟨i, quarto, b.casa.ocupantes quarto.id⟩ : Visto) ∈ h'.vistos)
    (full : Visto.semVaga ⟨i, quarto, b.casa.ocupantes quarto.id⟩) :
    NaOrdem (b, h') i eventId userId quartos := by
  obtain ⟨grupo, abertos, parts, ofGroup, opened, inEvent, others⟩ := inOrder
  have rest : ∀ q ∈ quartos, q ∈ b.bedrooms ∧ q.eventId = eventId ∧ q.capacity.isSome :=
    fun q mem => inEvent q (List.mem_cons_of_mem _ mem)
  cases grupo with
  | nil =>
      simp only [List.nil_append] at parts
      subst parts
      refine ⟨[], quartos, rfl, by simp, fun q mem => opened q (List.mem_cons_of_mem _ mem),
        rest, ?_⟩
      intro outro mem event fits
      rcases others outro mem event fits with absent | ⟨v, mem_v, is⟩
      · cases absent
      · exact .inr ⟨v, seen v mem_v, is⟩
  | cons first grupo =>
      obtain ⟨rfl, rfl⟩ := List.cons.inj parts
      refine ⟨grupo, abertos, rfl, fun q mem => ofGroup q (List.mem_cons_of_mem _ mem), opened,
        rest, ?_⟩
      intro outro mem event fits
      rcases others outro mem event fits with here | ⟨v, mem_v, is⟩
      · rcases List.mem_cons.mp here with rfl | later
        · exact .inr ⟨_, now, rfl, rfl, full⟩
        · exact .inl later
      · exact .inr ⟨v, seen v mem_v, is⟩

/-- A call about to try bedrooms has just read them, or found the one before them full. -/
theorem avancar_alocar {c : Chamada} {agora : Instant} {empate : CheckinRow → Nat} {userId : Id}
    {quartos : List Bedroom} (next : (b.avancar textos c agora empate).2 = .alocar userId quartos) :
    c.ponto = .candidatos userId ∧ quartos = b.casa.candidateBedrooms textos.porNome c.eventId
        (b.casa.gruposDe c.eventId userId) ∨
      ∃ quarto, c.ponto = .alocar userId (quarto :: quartos) ∧
        quarto.capacity.any fun capacity => capacity ≤ (b.casa.ocupantes quarto.id : Int) := by
  have same := trilha_avancar textos b c agora empate
  rw [next] at same
  obtain ⟨eventId, operatorId, ponto⟩ := c
  cases ponto with
  | deliverBadge userId | jaTemQuarto userId =>
      simp only [avancar, avancarEntrega] at next
      split at next <;> cases next
  | entregar userId existente =>
      cases existente <;> simp only [avancar, avancarEntrega] at next <;>
        split at next <;> cases next
  | candidatos userId =>
      simp only [avancar, avancarEntrega, Ponto.alocar.injEq] at next
      obtain ⟨rfl, rfl⟩ := next
      exact .inl ⟨rfl, rfl⟩
  | alocar userId quartos =>
      cases quartos with
      | nil => cases next
      | cons quarto quartos =>
          simp only [avancar, avancarEntrega] at next
          split at next
          · next full =>
              obtain ⟨rfl, rfl⟩ := Ponto.alocar.inj next
              exact .inr ⟨quarto, rfl, full⟩
          · split at next <;> cases next
  | registrar userId bedroomId => cases next
  | _ => simp [Ponto.trilha] at same

/-- The cadastre of the event is not written at the counter. -/
theorem step_cadastro (textos : TextosDoBalcao) (b : Balcao) (acao : Acao) :
    (b.step textos acao).db = b.db ∧ (b.step textos acao).bedrooms = b.bedrooms := by
  rcases step_cases textos b acao with ⟨chamadas, same, _⟩ |
    ⟨i, agora, empate, c, _, _, mudanca, same, _⟩
  · rw [same]
    exact ⟨rfl, rfl⟩
  · rw [same]
    exact ⟨mudanca.cadastro.1, mudanca.cadastro.2.1⟩

/-- A full bedroom has no place. -/
theorem semVaga_of_full {i : Nat} {quarto : Bedroom}
    (full : quarto.capacity.any fun capacity => capacity ≤ (b.casa.ocupantes quarto.id : Int)) :
    Visto.semVaga ⟨i, quarto, b.casa.ocupantes quarto.id⟩ := by
  obtain ⟨capacity, has, le⟩ := Option.any_eq_true _ _ |>.mp full
  simp only [decide_eq_true_eq] at le
  simp only [Visto.semVaga, has, Option.any_some, Bool.not_eq_true', Bool.and_eq_false_iff,
    decide_eq_false_iff_not, not_lt]
  exact .inr le

/-- A call that takes a bedroom had room for one more. -/
theorem avancar_ocupa {c : Chamada} {agora : Instant} {empate : CheckinRow → Nat} {userId : Id}
    {quarto : Bedroom} {quartos : List Bedroom}
    (tries : c.ponto = .alocar userId (quarto :: quartos))
    (takes : (b.avancar textos c agora empate).2 = .registrar userId quarto.id) :
    (∀ capacity, quarto.capacity = some capacity →
        (b.casa.ocupantes quarto.id : Int) < capacity) ∧
      (b.avancar textos c agora empate).1 =
        { b with bedroomsOnUsers := b.bedroomsOnUsers ++ [⟨userId, quarto.id⟩] } := by
  simp only [avancar, tries, avancarEntrega] at takes ⊢
  split at takes
  · cases takes
  · next fits =>
      split at takes
      · cases takes
      · next absent =>
          rw [if_neg fits, if_neg absent]
          exact ⟨fun capacity has => by simpa [has] using fits, rfl⟩

theorem EmOrdemDeTentar.step {sh : Balcao × Memoria} (emOrdem : EmOrdemDeTentar sh) (acao : Acao) :
    EmOrdemDeTentar (withHistory (step textos) memorizar sh acao) := by
  obtain ⟨b, h⟩ := sh
  obtain ⟨db, bedrooms⟩ := step_cadastro textos b acao
  have seen := vistos_memorizar h b (b.step textos acao) acao
  intro j c' userId quartos at_j tries
  simp only [withHistory] at at_j
  rcases step_cases textos b acao with ⟨chamadas, same, _, calls⟩ |
    ⟨i, agora, empate, c, rfl, at_i, mudanca, same, _⟩
  · have old : b.chamadas[j]? = some c' := by
      rw [same] at at_j
      rcases calls with rfl | ⟨eventId, operatorId, pedido, _, rfl⟩
      · exact at_j
      · rcases getElem?_begun at_j with was | ⟨_, rfl⟩
        · exact was
        · cases pedido <;> cases tries
    exact (emOrdem j c' userId quartos old tries).mono db bedrooms seen
  · rw [same] at at_j
    rcases getElem?_moved at_j with ⟨here, rfl⟩ | ⟨_, was⟩
    · obtain rfl := here.symm
      simp only at tries ⊢
      have memory : ∀ depois, (∀ v ∈ (h.leu b i).vistos, c.ponto = .candidatos userId →
          v ∈ (memorizar h b (.avancar i agora empate) depois).vistos) ∧
          ∀ quarto quartos, c.ponto = .alocar userId (quarto :: quartos) →
            (⟨i, quarto, b.casa.ocupantes quarto.id⟩ : Visto) ∈
              (memorizar h b (.avancar i agora empate) depois).vistos := by
        intro depois
        simp only [memorizar, at_i]
        exact ⟨fun v mem reads => by rw [reads]; exact mem,
          fun quarto quartos tries => by rw [tries]; exact List.mem_append_right _ (by simp)⟩
      rcases avancar_alocar tries with ⟨reads, rfl⟩ | ⟨quarto, tried, full⟩
      · exact (naOrdem_candidateBedrooms b h i c.eventId userId _).mono db bedrooms
          fun v mem => (memory _).1 v mem reads
      · have rest := (emOrdem i c userId (quarto :: quartos) at_i tried).tail seen
          ((memory _).2 quarto quartos tried) (semVaga_of_full full)
        exact rest.mono db bedrooms fun _ mem => mem
    · exact (emOrdem j c' userId quartos was tries).mono db bedrooms seen

/-- The bedroom a call takes is the first it has left to try. -/
theorem EmOrdemDeTentar.respeita {sh : Balcao × Memoria} (emOrdem : EmOrdemDeTentar sh)
    (acao : Acao) : RespeitaOQuarto textos sh acao := by
  obtain ⟨b, h⟩ := sh
  intro i agora empate c userId quarto quartos is at_i tries takes
  have seen := vistos_memorizar h b (b.step textos acao) acao
  obtain ⟨grupo, abertos, parts, ofGroup, opened, inEvent, others⟩ :=
    emOrdem i c userId _ at_i tries
  obtain ⟨mem, event, has⟩ := inEvent quarto List.mem_cons_self
  obtain ⟨capacity, has⟩ := Option.isSome_iff_exists.mp has
  refine ⟨mem, event, ⟨capacity, has, ?_⟩, ?_⟩
  · subst is
    obtain ⟨fits, taken⟩ := avancar_ocupa tries takes
    have after : (b.step textos (.avancar i agora empate)).bedroomsOnUsers =
        b.bedroomsOnUsers ++ [⟨userId, quarto.id⟩] := by
      simp only [Balcao.step, at_i, taken]
    have one_more : (b.step textos (.avancar i agora empate)).casa.ocupantes quarto.id =
        b.casa.ocupantes quarto.id + 1 := by
      simp only [Hospedagem.ocupantes, casa, after, List.countP_append]
      simp
    have room : (b.casa.ocupantes quarto.id : Int) < capacity := fits capacity has
    rw [one_more]
    omega
  · cases grupo with
    | nil =>
        simp only [List.nil_append] at parts
        refine .inr ⟨opened quarto (parts ▸ List.mem_cons_self), fun outro mem_o event_o fits => ?_⟩
        rcases others outro mem_o event_o fits with absent | ⟨v, mem_v, of_v⟩
        · cases absent
        · exact ⟨v, seen v mem_v, of_v⟩
    | cons first grupo =>
        obtain ⟨rfl, _⟩ := List.cons.inj parts
        exact .inl (ofGroup _ List.mem_cons_self)

end Candidatos

/-! ### The bedrooms given back -/

/-- Some call on the event stands at a statement. -/
def EmCurso (chamadas : List Chamada) (eventId : Id) (P : Ponto → Prop) : Prop :=
  ∃ c ∈ chamadas, c.eventId = eventId ∧ P c.ponto

/-- The statements that still have this bedroom of this person in hand. -/
def Ponto.temEmMaos (userId bedroomId : Id) (ponto : Ponto) : Prop :=
  ponto = .registrar userId bedroomId ∨ ponto = .liberar userId bedroomId

/-- The statements after which the record of this person names no bedroom. -/
def Ponto.vaiLimpar (userId : Id) (ponto : Ponto) : Prop :=
  (∃ bedroomId, ponto = .liberar userId bedroomId) ∨ ponto = .limpar userId

/-- Every bed assigned automatically is on record for somebody who arrived, or a call still has it
in hand; and the record of somebody who has not arrived names a bedroom only while a release is
under way. -/
structure SobControle (b : Balcao) (automaticas : List (Id × Id × Id)) : Prop where
  chaves : (b.checkins.map CheckinRow.chave).Nodup
  presentes : ∀ userId eventId bedroomId, (userId, eventId, bedroomId) ∈ automaticas →
    ⟨userId, bedroomId⟩ ∈ b.bedroomsOnUsers
  entregues : ∀ c ∈ b.chamadas, ∀ userId, c.ponto.entregue = some userId →
    (b.checkin? userId c.eventId).isSome
  cobertas : ∀ userId eventId bedroomId, (userId, eventId, bedroomId) ∈ automaticas →
    (∃ r, b.checkin? userId eventId = some r ∧ r.autoBedroomId = some bedroomId ∧
      r.status ≠ .pending) ∨
    EmCurso b.chamadas eventId (Ponto.temEmMaos userId bedroomId)
  limpas : ∀ userId eventId r, b.checkin? userId eventId = some r → r.status = .pending →
    r.autoBedroomId ≠ none → EmCurso b.chamadas eventId (Ponto.vaiLimpar userId)

theorem SobControle.devolve {b : Balcao} {h : Memoria} (emDia : SobControle b h.automaticas) :
    DevolveSeNaoChegou (b, h) := by
  intro ended r mem pending
  have idle : ∀ P : Ponto → Prop, (∀ resposta, ¬ P (.fim resposta)) →
      ¬ EmCurso b.chamadas r.eventId P := by
    rintro P never ⟨c, mem_c, _, holds⟩
    obtain ⟨resposta, is⟩ := ended c mem_c
    exact never resposta (is ▸ holds)
  have found : b.checkin? r.userId r.eventId = some r :=
    (lookup_eq_some_iff emDia.chaves).mpr ⟨mem, rfl⟩
  constructor
  · by_contra named
    exact idle _ (by simp [Ponto.vaiLimpar]) (emDia.limpas _ _ r found pending named)
  · intro bedroomId held
    rcases emDia.cobertas _ _ _ held with ⟨row, same, _, arrived⟩ | inHand
    · obtain rfl := Option.some.inj (found.symm.trans same)
      exact arrived pending
    · exact idle _ (by simp [Ponto.temEmMaos]) inHand

section Devolucao

variable {textos} {b depois : Balcao} {c : Chamada} {ponto : Ponto} {i : Nat}
  {automaticas : List (Id × Id × Id)}

/-- What a call at some statement stands for survives the step of another, or of its own. -/
theorem EmCurso.set {chamadas : List Chamada} {eventId : Id} {P : Ponto → Prop}
    (open_ : EmCurso chamadas eventId P) (at_i : chamadas[i]? = some c)
    (keep : c.eventId = eventId → P c.ponto → P ponto) :
    EmCurso (chamadas.set i { c with ponto := ponto }) eventId P := by
  obtain ⟨d, mem, event, holds⟩ := open_
  obtain ⟨j, at_j⟩ := List.mem_iff_getElem?.mp mem
  by_cases here : i = j
  · subst here
    obtain rfl := Option.some.inj (at_i.symm.trans at_j)
    have lt := (List.getElem?_eq_some_iff.mp at_i).1
    exact ⟨_, List.mem_set lt _, event, keep event holds⟩
  · refine ⟨d, List.mem_iff_getElem?.mpr ⟨j, ?_⟩, event, holds⟩
    rwa [List.getElem?_set_ne here]

theorem EmCurso.set_of_livre {chamadas : List Chamada} {eventId : Id} {P : Ponto → Prop}
    (open_ : EmCurso chamadas eventId P) (at_i : chamadas[i]? = some c)
    (livre : c.ponto.doQuarto = false) (only : ∀ p : Ponto, P p → p.doQuarto = true) :
    EmCurso (chamadas.set i { c with ponto := ponto }) eventId P :=
  open_.set at_i fun _ holds => by simp [only _ holds] at livre

theorem doQuarto_of_temEmMaos {userId bedroomId : Id} (p : Ponto)
    (holds : p.temEmMaos userId bedroomId) : p.doQuarto = true := by
  rcases holds with rfl | rfl <;> rfl

theorem doQuarto_of_vaiLimpar {userId : Id} (p : Ponto) (holds : p.vaiLimpar userId) :
    p.doQuarto = true := by
  rcases holds with ⟨_, rfl⟩ | rfl <;> rfl

/-- The calls past their delivery, after the step of one of them. -/
theorem entregues_set
    (entregues : ∀ c ∈ b.chamadas, ∀ userId, c.ponto.entregue = some userId →
      (b.checkin? userId c.eventId).isSome)
    (kept : ∀ userId eventId, (b.checkin? userId eventId).isSome →
      (depois.checkin? userId eventId).isSome)
    (next : ∀ userId, ponto.entregue = some userId → (depois.checkin? userId c.eventId).isSome) :
    ∀ d ∈ b.chamadas.set i { c with ponto := ponto }, ∀ userId, d.ponto.entregue = some userId →
      (depois.checkin? userId d.eventId).isSome := by
  intro d mem userId delivered
  rcases List.mem_or_eq_of_mem_set mem with old | rfl
  · exact kept _ _ (entregues d old userId delivered)
  · exact next userId delivered

/-- Rows whose key does not change are found after an update of another. -/
theorem isSome_checkin?_atualizar {g : CheckinRow → CheckinRow}
    (same : ∀ r, (g r).chave = r.chave) (u e userId eventId : Id)
    (there : (b.checkin? userId eventId).isSome) :
    ((b.atualizar u e g).checkin? userId eventId).isSome := by
  rw [checkin?_atualizar same]
  split
  · next here =>
      obtain ⟨rfl, rfl⟩ := Prod.mk.inj here
      simpa using there
  · exact there

theorem SobControle.leu (emDia : SobControle b automaticas) (at_i : b.chamadas[i]? = some c)
    (livre : c.ponto.doQuarto = false)
    (segue : ∀ u, ponto.entregue = some u → c.ponto.entregue = some u) :
    SobControle { b with chamadas := b.chamadas.set i { c with ponto := ponto } } automaticas where
  chaves := emDia.chaves
  presentes := emDia.presentes
  entregues := entregues_set emDia.entregues (fun _ _ there => there) fun userId delivered =>
    emDia.entregues c (List.mem_of_getElem? at_i) userId (segue userId delivered)
  cobertas userId eventId bedroomId held :=
    (emDia.cobertas userId eventId bedroomId held).imp_right fun open_ =>
      open_.set_of_livre at_i livre doQuarto_of_temEmMaos
  limpas userId eventId r found pending named :=
    (emDia.limpas userId eventId r found pending named).set_of_livre at_i livre
      doQuarto_of_vaiLimpar

/-- A call that takes a bed has it in hand. -/
theorem SobControle.ocupou (emDia : SobControle b automaticas) (at_i : b.chamadas[i]? = some c)
    {userId bedroomId : Id} (livre : c.ponto.doQuarto = false)
    (was : c.ponto.entregue = some userId) :
    SobControle { b with
        bedroomsOnUsers := b.bedroomsOnUsers ++ [⟨userId, bedroomId⟩]
        chamadas := b.chamadas.set i { c with ponto := .registrar userId bedroomId } }
      (automaticas ++ [(userId, c.eventId, bedroomId)]) where
  chaves := emDia.chaves
  presentes u e q held := by
    rcases List.mem_append.mp held with old | new
    · exact List.mem_append_left _ (emDia.presentes u e q old)
    · obtain ⟨rfl, _, rfl⟩ := by simpa using new
      exact List.mem_append_right _ (List.mem_singleton_self _)
  entregues := entregues_set emDia.entregues (fun _ _ there => there) fun u delivered => by
    cases delivered
    exact emDia.entregues c (List.mem_of_getElem? at_i) userId was
  cobertas u e q held := by
    rcases List.mem_append.mp held with old | new
    · exact (emDia.cobertas u e q old).imp_right fun open_ =>
        open_.set_of_livre at_i livre doQuarto_of_temEmMaos
    · obtain ⟨rfl, rfl, rfl⟩ := by simpa using new
      exact .inr ⟨_, List.mem_set (List.getElem?_eq_some_iff.mp at_i).1 _, rfl, .inl rfl⟩
  limpas u e r found pending named :=
    (emDia.limpas u e r found pending named).set_of_livre at_i livre doQuarto_of_vaiLimpar

/-- A bed that was recorded for somebody who arrived, over no other bed of theirs. -/
theorem SobControle.registrou (emDia : SobControle b automaticas) (at_i : b.chamadas[i]? = some c)
    {userId bedroomId : Id} (de : c.ponto = .registrar userId bedroomId)
    (guard : ∀ r, b.checkin? userId c.eventId = some r → r.status ≠ .pending ∧
      ∀ outro, r.autoBedroomId = some outro →
        outro = bedroomId ∨ ⟨userId, outro⟩ ∉ b.bedroomsOnUsers) :
    SobControle { b.atualizar userId c.eventId (.comQuarto (some bedroomId)) with
        chamadas := b.chamadas.set i { c with ponto := .fim (.participante userId) } }
      automaticas := by
  have at_key := checkin?_atualizar (b := b) (chave_comQuarto (some bedroomId)) userId c.eventId
  obtain ⟨r, there⟩ := Option.isSome_iff_exists.mp
    (emDia.entregues c (List.mem_of_getElem? at_i) userId (by rw [de]; rfl))
  obtain ⟨arrived, alone⟩ := guard r there
  refine ⟨by rw [chaves_atualizar (chave_comQuarto _)]; exact emDia.chaves, emDia.presentes, ?_,
    ?_, ?_⟩
  · exact entregues_set emDia.entregues
      (isSome_checkin?_atualizar (chave_comQuarto _) _ _) fun u delivered => by cases delivered
  · intro u e q held
    have stays : EmCurso b.chamadas e (Ponto.temEmMaos u q) → (u, e, q) ≠
        (userId, c.eventId, bedroomId) → EmCurso (b.chamadas.set i
          { c with ponto := .fim (.participante userId) }) e (Ponto.temEmMaos u q) := by
      intro open_ other
      refine open_.set at_i fun event holds => absurd ?_ other
      rw [de] at holds
      rcases holds with same | same
      · obtain ⟨rfl, rfl⟩ := Ponto.registrar.inj same
        rw [event]
      · cases same
    change (∃ row, (b.atualizar userId c.eventId _).checkin? u e = some row ∧ _) ∨ _
    rw [at_key]
    by_cases here : (u, e) = (userId, c.eventId)
    · obtain ⟨rfl, rfl⟩ := Prod.mk.inj here
      rw [if_pos rfl, there, Option.map_some]
      by_cases this_bed : q = bedroomId
      · subst this_bed
        exact .inl ⟨_, rfl, rfl, arrived⟩
      · rcases emDia.cobertas u _ q held with ⟨row, same, recorded, _⟩ | open_
        · obtain rfl := Option.some.inj (there.symm.trans same)
          rcases alone q recorded with is | gone
          · exact absurd is this_bed
          · exact absurd (emDia.presentes _ _ q held) gone
        · exact .inr (stays open_ (by simp [this_bed]))
    · rw [if_neg here]
      exact (emDia.cobertas u e q held).imp_right fun open_ =>
        stays open_ fun same => here (by cases same; rfl)
  · intro u e row found pending named
    change (b.atualizar userId c.eventId _).checkin? u e = some row at found
    rw [at_key] at found
    split at found
    · rw [there, Option.map_some] at found
      obtain rfl := Option.some.inj found
      exact absurd pending arrived
    · refine (emDia.limpas u e row found pending named).set at_i fun _ holds => ?_
      rw [de] at holds
      rcases holds with ⟨_, same⟩ | same <;> cases same

/-- A bed that leaves the person leaves the list. -/
theorem SobControle.liberou (emDia : SobControle b automaticas) (at_i : b.chamadas[i]? = some c)
    {userId bedroomId : Id} (de : c.ponto = .liberar userId bedroomId) :
    SobControle { b with
        bedroomsOnUsers := b.bedroomsOnUsers.filter fun row => row ≠ ⟨userId, bedroomId⟩
        chamadas := b.chamadas.set i { c with ponto := .limpar userId } }
      (automaticas.filter fun a => ¬ (a.1 = userId ∧ a.2.2 = bedroomId)) where
  chaves := emDia.chaves
  presentes u e q held := by
    obtain ⟨held, other⟩ := List.mem_filter.mp held
    refine List.mem_filter.mpr ⟨emDia.presentes u e q held, ?_⟩
    simpa using other
  entregues := entregues_set emDia.entregues (fun _ _ there => there) fun u delivered => by
    cases delivered
  cobertas u e q held := by
    obtain ⟨held, other⟩ := List.mem_filter.mp held
    refine (emDia.cobertas u e q held).imp_right fun open_ => open_.set at_i fun _ holds => ?_
    rw [de] at holds
    rcases holds with same | same
    · cases same
    · obtain ⟨rfl, rfl⟩ := Ponto.liberar.inj same
      simp at other
  limpas u e r found pending named :=
    (emDia.limpas u e r found pending named).set at_i fun _ holds => by
      rw [de] at holds
      rcases holds with ⟨_, same⟩ | same
      · exact .inr (by cases same; rfl)
      · cases same

/-- The end of a release, when the record names no bed the person is in. -/
theorem SobControle.limpou (emDia : SobControle b automaticas) (at_i : b.chamadas[i]? = some c)
    {userId : Id} (de : c.ponto = .limpar userId)
    (guard : ∀ r, b.checkin? userId c.eventId = some r → ∀ outro, r.autoBedroomId = some outro →
      ⟨userId, outro⟩ ∉ b.bedroomsOnUsers) :
    SobControle { b.atualizar userId c.eventId (.comQuarto none) with
        chamadas := b.chamadas.set i { c with ponto := .fim (.participante userId) } }
      automaticas := by
  have at_key := checkin?_atualizar (b := b) (chave_comQuarto none) userId c.eventId
  refine ⟨by rw [chaves_atualizar (chave_comQuarto _)]; exact emDia.chaves, emDia.presentes, ?_,
    ?_, ?_⟩
  · exact entregues_set emDia.entregues
      (isSome_checkin?_atualizar (chave_comQuarto _) _ _) fun u delivered => by cases delivered
  · intro u e q held
    change (∃ row, (b.atualizar userId c.eventId _).checkin? u e = some row ∧ _) ∨ _
    rw [at_key]
    rcases emDia.cobertas u e q held with ⟨row, same, recorded, arrived⟩ | open_
    · by_cases here : (u, e) = (userId, c.eventId)
      · obtain ⟨rfl, rfl⟩ := Prod.mk.inj here
        exact absurd (emDia.presentes _ _ q held) (guard row same q recorded)
      · rw [if_neg here]
        exact .inl ⟨row, same, recorded, arrived⟩
    · refine .inr (open_.set at_i fun _ holds => ?_)
      rw [de] at holds
      rcases holds with same | same <;> cases same
  · intro u e row found pending named
    change (b.atualizar userId c.eventId _).checkin? u e = some row at found
    rw [at_key] at found
    split at found
    · obtain ⟨old, _, rfl⟩ := Option.map_eq_some_iff.mp found
      exact absurd rfl named
    · next other =>
        refine (emDia.limpas u e row found pending named).set at_i fun event holds => ?_
        rw [de] at holds
        rcases holds with ⟨_, same⟩ | same
        · cases same
        · obtain rfl := Ponto.limpar.inj same
          exact absurd (by rw [event]) other

/-- The first delivery creates a record that names no bedroom. -/
theorem SobControle.criou (emDia : SobControle b automaticas) (at_i : b.chamadas[i]? = some c)
    {userId agora : Id} (livre : c.ponto.doQuarto = false)
    (absent : b.checkin? userId c.eventId = none)
    (chaves : ((b.checkins ++ [CheckinRow.nova userId c.eventId c.operatorId agora]).map
      CheckinRow.chave).Nodup) :
    SobControle { b with
        checkins := b.checkins ++ [.nova userId c.eventId c.operatorId agora]
        chamadas := b.chamadas.set i { c with ponto := .jaTemQuarto userId } } automaticas := by
  have created : ∀ u e, Balcao.checkin? { b with
      checkins := b.checkins ++ [.nova userId c.eventId c.operatorId agora] } u e =
      (b.checkin? u e).or (if (userId, c.eventId) = (u, e) then
        some (.nova userId c.eventId c.operatorId agora) else none) := by
    intro u e
    simp only [checkin?, lookup, List.find?_append, List.find?_cons, List.find?_nil]
    congr 1
    split
    · next same => exact (if_pos (of_decide_eq_true same)).symm
    · next other => exact (if_neg (of_decide_eq_false other)).symm
  have kept : ∀ u e r, b.checkin? u e = some r → Balcao.checkin? { b with
      checkins := b.checkins ++ [.nova userId c.eventId c.operatorId agora] } u e = some r := by
    intro u e r found
    rw [created, found, Option.some_or]
  refine ⟨chaves, emDia.presentes, ?_, ?_, ?_⟩
  · refine entregues_set emDia.entregues (fun u e there => ?_) fun u delivered => ?_
    · obtain ⟨r, found⟩ := Option.isSome_iff_exists.mp there
      exact Option.isSome_iff_exists.mpr ⟨r, kept u e r found⟩
    · obtain rfl := Option.some.inj delivered
      refine Option.isSome_iff_exists.mpr ⟨.nova userId c.eventId c.operatorId agora,
        (created userId c.eventId).trans ?_⟩
      rw [absent, if_pos rfl, Option.none_or]
  · intro u e q held
    rcases emDia.cobertas u e q held with ⟨r, found, recorded, arrived⟩ | open_
    · exact .inl ⟨r, kept u e r found, recorded, arrived⟩
    · exact .inr (open_.set_of_livre at_i livre doQuarto_of_temEmMaos)
  · intro u e r found pending named
    rcases Option.or_eq_some_iff.mp ((created u e).symm.trans found) with old | ⟨_, new⟩
    · exact (emDia.limpas u e r old pending named).set_of_livre at_i livre doQuarto_of_vaiLimpar
    · split at new
      · obtain rfl := Option.some.inj new
        exact absurd rfl named
      · cases new

/-- A write of a status loses no bed, when an undo takes the badge back from somebody whose record
names no bed but the one it is about to release. -/
theorem SobControle.gravou (emDia : SobControle b automaticas) (at_i : b.chamadas[i]? = some c)
    {f : Feito} {userId : Id} {r : CheckinRow} {g : CheckinRow → CheckinRow}
    (livre : c.ponto.doQuarto = false)
    (achado : b.checkin? userId c.eventId = some r) (grava : Grava f r.status g)
    (solta : f = .desfez ∨ f = .reverteu → ponto = soltarQuarto userId c.ponto.quartoLido)
    (segue : ∀ u, ponto.entregue = some u → u = userId)
    (guard : f = .desfez ∧ r.status = .queued ∨ f = .reverteu →
      r.autoBedroomId = none ∨ r.autoBedroomId = c.ponto.quartoLido) :
    SobControle { b.atualizar userId c.eventId g with
        chamadas := b.chamadas.set i { c with ponto := ponto } } automaticas := by
  have at_key := checkin?_atualizar (b := b) grava.chave userId c.eventId
  -- the release that follows a write of `PENDING` over a record that names a bed
  have released : ∀ bed, r.autoBedroomId = some bed →
      f = .desfez ∧ r.status = .queued ∨ f = .reverteu →
      EmCurso (b.chamadas.set i { c with ponto := ponto }) c.eventId
        (· = .liberar userId bed) := by
    intro bed recorded undone
    refine ⟨_, List.mem_set (List.getElem?_eq_some_iff.mp at_i).1 _, rfl, ?_⟩
    rcases guard undone with none_ | read
    · rw [recorded] at none_
      cases none_
    · rw [solta (undone.imp And.left id), ← read, recorded]
      rfl
  refine ⟨by rw [chaves_atualizar grava.chave]; exact emDia.chaves, emDia.presentes, ?_, ?_, ?_⟩
  · refine entregues_set emDia.entregues (isSome_checkin?_atualizar grava.chave _ _)
      fun u delivered => ?_
    obtain rfl := segue u delivered
    exact isSome_checkin?_atualizar grava.chave _ _ _ _ (Option.isSome_iff_exists.mpr ⟨r, achado⟩)
  · intro u e q held
    change (∃ row, (b.atualizar userId c.eventId g).checkin? u e = some row ∧ _) ∨ _
    rw [at_key]
    rcases emDia.cobertas u e q held with ⟨row, same, recorded, arrived⟩ | open_
    · by_cases here : (u, e) = (userId, c.eventId)
      · obtain ⟨rfl, rfl⟩ := Prod.mk.inj here
        obtain rfl := Option.some.inj (achado.symm.trans same)
        rw [if_pos rfl, achado, Option.map_some]
        by_cases back : f = .desfez ∧ r.status = .queued ∨ f = .reverteu
        · obtain ⟨d, mem, event, is⟩ := released q recorded back
          exact .inr ⟨d, mem, event, .inr is⟩
        · refine .inl ⟨g r, rfl, ?_, ?_⟩
          · generalize r.status = before at grava back
            cases grava with
            | reverteu => simp at back
            | desfez => cases before <;> exact recorded
            | _ => exact recorded
          · generalize status : r.status = before at grava back arrived
            cases grava with
            | reverteu => simp at back
            | desfez => cases before <;> simp_all [CheckinRow.anterior]
            | _ => simp [CheckinRow.entregar, CheckinRow.chamar, CheckinRow.concluir]
      · rw [if_neg here]
        exact .inl ⟨row, same, recorded, arrived⟩
    · exact .inr (open_.set_of_livre at_i livre doQuarto_of_temEmMaos)
  · intro u e row found pending named
    change (b.atualizar userId c.eventId g).checkin? u e = some row at found
    rw [at_key] at found
    split at found
    · next here =>
        obtain ⟨rfl, rfl⟩ := Prod.mk.inj here
        rw [achado, Option.map_some] at found
        obtain rfl := Option.some.inj found
        obtain ⟨bed, recorded⟩ := Option.ne_none_iff_exists'.mp named
        generalize status : r.status = before at grava
        cases grava with
        | entregou => cases pending
        | chamou => cases pending
        | concluiu => cases pending
        | reverteu => cases recorded
        | desfez =>
            cases before with
            | pending =>
                exact (emDia.limpas u _ r achado status named).set_of_livre at_i livre
                  doQuarto_of_vaiLimpar
            | queued =>
                obtain ⟨d, mem, event, is⟩ := released bed recorded (.inl ⟨rfl, status⟩)
                exact ⟨d, mem, event, .inl ⟨bed, is⟩⟩
            | inProgress => cases pending
            | done => cases pending
    · exact (emDia.limpas u e row found pending named).set_of_livre at_i livre doQuarto_of_vaiLimpar

end Devolucao

/-! ### Runs -/

section Passos

variable {textos} {b depois : Balcao} {c : Chamada} {i : Nat} {h : Memoria}

/-- The undos a write of a status may come from. -/
theorem feitoDe_retorno {antes ponto : Ponto} {f : Feito} {userId : Id}
    (feito : feitoDe antes ponto = some (f, userId)) :
    (f = .desfez → ∃ atual, antes = .desfazer userId atual) ∧
      (f = .reverteu → ∃ lido, antes = .reverter userId lido) := by
  unfold feitoDe at feito
  split at feito <;>
    first
    | (obtain ⟨rfl, rfl⟩ := Prod.mk.inj (Option.some.inj feito); simp)
    | cases feito

theorem livre_of_feito {antes ponto : Ponto} {f : Feito} {userId : Id}
    (feito : feitoDe antes ponto = some (f, userId)) : antes.doQuarto = false := by
  unfold feitoDe at feito
  split at feito <;> first | rfl | cases feito

/-- A statement that is no part of an assignment or a release leaves the list of automatic beds. -/
theorem automaticas_memorizar (agora : Instant) (empate : CheckinRow → Nat)
    (at_i : b.chamadas[i]? = some c) (other : ∀ u q, c.ponto ≠ .liberar u q)
    (same : depois.bedroomsOnUsers = b.bedroomsOnUsers) :
    (memorizar h b (.avancar i agora empate) depois).automaticas = h.automaticas := by
  simp only [memorizar, at_i]
  split
  · rfl
  · simp only [same]
    exact if_neg fun both => both.2 both.1
  · next is => exact absurd is (other _ _)
  · rfl

theorem ne_liberar_of_livre (livre : c.ponto.doQuarto = false) (u q : Id) :
    c.ponto ≠ .liberar u q := by
  intro is
  rw [is] at livre
  cases livre

/-- A call begins: it delivered nothing yet. -/
theorem SobControle.nova {automaticas : List (Id × Id × Id)} (emDia : SobControle b automaticas)
    (eventId operatorId : Id) (pedido : Pedido) :
    SobControle { b with chamadas := b.chamadas ++ [⟨eventId, operatorId, pedido.ponto⟩] }
      automaticas := by
  have stays : ∀ e P, EmCurso b.chamadas e P →
      EmCurso (b.chamadas ++ [⟨eventId, operatorId, pedido.ponto⟩]) e P :=
    fun e P ⟨d, mem, rest⟩ => ⟨d, List.mem_append_left _ mem, rest⟩
  constructor
  case chaves => exact emDia.chaves
  case presentes => exact emDia.presentes
  case entregues =>
    intro d mem userId delivered
    rcases List.mem_append.mp mem with old | new
    · exact emDia.entregues d old userId delivered
    · obtain rfl := List.mem_singleton.mp new
      cases pedido <;> cases delivered
  case cobertas => exact fun u e q held => (emDia.cobertas u e q held).imp_right (stays _ _)
  case limpas =>
    exact fun u e r found pending named => stays _ _ (emDia.limpas u e r found pending named)

theorem SobControle.step {sh : Balcao × Memoria} (emDia : SobControle sh.1 sh.2.automaticas)
    {acao : Acao} (guard : NaoPerdeQuarto sh.1 acao) :
    SobControle (withHistory (Balcao.step textos) memorizar sh acao).1
      (withHistory (Balcao.step textos) memorizar sh acao).2.automaticas := by
  obtain ⟨b, h⟩ := sh
  dsimp only at emDia guard
  cases acao with
  | nova eventId operatorId pedido =>
      exact emDia.nova eventId operatorId pedido
  | avancar i agora empate =>
      cases at_i : b.chamadas[i]? with
      | none =>
          have idle : withHistory (Balcao.step textos) memorizar (b, h) (.avancar i agora empate) =
              (b, h) := by
            simp only [withHistory, Balcao.step, memorizar, at_i]
          rw [idle]
          exact emDia
      | some c =>
          have mudanca := mudanca_avancar textos b c agora empate
          have after : b.step textos (.avancar i agora empate) =
              { (b.avancar textos c agora empate).1 with
                chamadas := b.chamadas.set i
                  { c with ponto := (b.avancar textos c agora empate).2 } } := by
            simp only [Balcao.step, at_i]
          simp only [withHistory, after]
          have guard_c := guard c at_i
          unfold NaoPerde at guard_c
          generalize (b.avancar textos c agora empate).1 = depois at mudanca ⊢
          generalize (b.avancar textos c agora empate).2 = ponto at mudanca ⊢
          have chaves := mudanca.chaves emDia.chaves
          have same_list : ∀ d : Balcao, d.bedroomsOnUsers = b.bedroomsOnUsers →
              (∀ u q, c.ponto ≠ .liberar u q) → SobControle d h.automaticas →
                SobControle d (memorizar h b (.avancar i agora empate) d).automaticas := by
            intro d same other holds
            rwa [automaticas_memorizar agora empate at_i other same]
          cases mudanca with
          | leu nada livre segue =>
              exact same_list _ rfl (ne_liberar_of_livre livre) (emDia.leu at_i livre segue)
          | criou userId agora' de absent =>
              exact same_list _ rfl (by simp [de])
                (emDia.criou at_i (by rw [de]; rfl) absent chaves)
          | @gravou _ f userId r g feito achado grava lido solta segue =>
              have livre := livre_of_feito feito
              refine same_list _ rfl (ne_liberar_of_livre livre)
                (emDia.gravou at_i livre achado grava solta segue ?_)
              obtain ⟨undo, undoBadge⟩ := feitoDe_retorno feito
              rintro (⟨undone, queued⟩ | undone)
              · obtain ⟨atual, is⟩ := undo undone
                have was := (lido userId atual is).trans queued
                rw [is] at guard_c ⊢
                simpa [Ponto.quartoLido, was] using guard_c r achado queued was
              · obtain ⟨read, is⟩ := undoBadge undone
                rw [is] at guard_c ⊢
                refine guard_c r achado ?_
                subst undone
                generalize r.status = before at grava
                cases grava with
                | reverteu esperado => exact esperado
          | ocupou userId quarto quartos de cabe nova =>
              have kept : (memorizar h b (.avancar i agora empate)
                  { b with
                    bedroomsOnUsers := b.bedroomsOnUsers ++ [⟨userId, quarto.id⟩]
                    chamadas := b.chamadas.set i
                      { c with ponto := .registrar userId quarto.id } }).automaticas =
                  h.automaticas ++ [(userId, c.eventId, quarto.id)] := by
                simp only [memorizar, at_i, de]
                exact if_pos ⟨List.mem_append_right _ (List.mem_singleton_self _), nova⟩
              rw [kept]
              exact emDia.ocupou at_i (by rw [de]; rfl) (by rw [de]; rfl)
          | registrou userId bedroomId de =>
              rw [de] at guard_c
              exact same_list _ rfl (by simp [de]) (emDia.registrou at_i de guard_c)
          | liberou userId bedroomId de =>
              have kept : ∀ depois, (memorizar h b (.avancar i agora empate) depois).automaticas =
                  h.automaticas.filter fun a => ¬ (a.1 = userId ∧ a.2.2 = bedroomId) := by
                intro depois
                simp only [memorizar, at_i, de]
              rw [kept]
              exact emDia.liberou at_i de
          | limpou userId de =>
              rw [de] at guard_c
              exact same_list _ rfl (by simp [de]) (emDia.limpou at_i de guard_c)

end Passos

end Balcao

/-- In a run from a counter nobody has come to, every bed assigned automatically respects the
bedroom; and when no write loses sight of a bedroom, whoever has not arrived has no automatic bed
in any state in which all calls are over. -/
theorem quartoAutomatico_run (textos : TextosDoBalcao) {b : Balcao} (vazio : b.checkins = [])
    (parado : b.chamadas = []) (acoes : List Balcao.Acao) :
    EachStep (withHistory (Balcao.step textos) Balcao.memorizar) (Balcao.RespeitaOQuarto textos)
        (b, .vazia) acoes ∧
      (EachStep (Balcao.step textos) Balcao.NaoPerdeQuarto b acoes →
        Always (withHistory (Balcao.step textos) Balcao.memorizar) Balcao.DevolveSeNaoChegou
          (b, .vazia) acoes) := by
  constructor
  · have start : Balcao.EmOrdemDeTentar (b, .vazia) := by
      intro i c userId quartos at_i
      simp [parado] at at_i
    exact (always_of_step (fun _ acao emOrdem => emOrdem.step acao) start acoes).eachStep
      fun _ acao emOrdem => emOrdem.respeita acao
  · intro guarded
    have start : Balcao.SobControle b [] := by
      refine ⟨by simp [vazio], by simp, by simp [parado], by simp, fun u e r found => ?_⟩
      simp [Balcao.checkin?, vazio, lookup] at found
    have emDia : Always (withHistory (Balcao.step textos) Balcao.memorizar)
        (fun sh => Balcao.SobControle sh.1 sh.2.automaticas) (b, .vazia) acoes :=
      always_of_eachStep (G := fun sh a => Balcao.NaoPerdeQuarto sh.1 a)
        (fun _ _ emDia guard => emDia.step guard) start ((eachStep_withHistory _).mpr guarded)
    exact emDia.mono fun _ emDia => emDia.devolve

namespace RetornoNoMeio

open DoisInscritos

/-- The badge of 1 is taken back between its delivery and the assignment of the bedroom. -/
def acoes : List Balcao.Acao :=
  [pedir (.deliverBadge 1), passo 0, passo 0, pedir (.undoBadgeDelivery 1), passo 1, passo 1,
    passo 0, passo 0, passo 0, passo 0]

/-- The badge of 1 is delivered and taken back, and the bed goes to 2. -/
def umDeCadaVez : List Balcao.Acao :=
  [pedir (.deliverBadge 1), passo 0, passo 0, passo 0, passo 0, passo 0, passo 0,
    pedir (.undo 1), passo 1, passo 1, passo 1, passo 1,
    pedir (.deliverBadge 2), passo 2, passo 2, passo 2, passo 2, passo 2, passo 2]

end RetornoNoMeio

/-- All calls are over, 1 has not arrived, and the only bed is taken for 1. -/
theorem not_devolveSeNaoChegou_retornoNoMeio :
    ¬ Always (withHistory (Balcao.step DoisInscritos.textos) Balcao.memorizar)
      Balcao.DevolveSeNaoChegou (DoisInscritos.inicio, .vazia) RetornoNoMeio.acoes := by
  intro always
  have fim := always.last
  have state := runFrom_withHistory (Balcao.step DoisInscritos.textos) Balcao.memorizar
    (DoisInscritos.inicio, .vazia) RetornoNoMeio.acoes
  unfold Balcao.DevolveSeNaoChegou at fim
  rw [state] at fim
  have row : (runFrom (Balcao.step DoisInscritos.textos) DoisInscritos.inicio
      RetornoNoMeio.acoes).checkins =
      [{ userId := 1, eventId := 5, status := .pending, autoBedroomId := some 50,
         badgeDeliveredAt := none, badgeDeliveredById := none, calledAt := none,
         calledById := none, doneAt := none, doneById := none, notes := none }] := by
    decide +kernel
  have ended : (runFrom (Balcao.step DoisInscritos.textos) DoisInscritos.inicio
      RetornoNoMeio.acoes).chamadas.map Balcao.Chamada.ponto =
      [.fim (.participante 1), .fim (.participante 1)] := by
    decide +kernel
  have ended : ∀ c ∈ (runFrom (Balcao.step DoisInscritos.textos) DoisInscritos.inicio
      RetornoNoMeio.acoes).chamadas, ∃ resposta, c.ponto = .fim resposta := by
    intro c mem
    have point := List.mem_map_of_mem (f := Balcao.Chamada.ponto) mem
    rw [ended] at point
    exact ⟨_, (List.mem_cons.mp point).elim id fun rest => List.mem_singleton.mp rest⟩
  have released := (fim ended _ (row ▸ List.mem_singleton_self _) rfl).1
  cases released

theorem quartoAutomatico_run_umDeCadaVez :
    EachStep (withHistory (Balcao.step DoisInscritos.textos) Balcao.memorizar)
        (Balcao.RespeitaOQuarto DoisInscritos.textos) (DoisInscritos.inicio, .vazia)
        RetornoNoMeio.umDeCadaVez ∧
      Always (withHistory (Balcao.step DoisInscritos.textos) Balcao.memorizar)
        Balcao.DevolveSeNaoChegou (DoisInscritos.inicio, .vazia) RetornoNoMeio.umDeCadaVez :=
  have run := quartoAutomatico_run DoisInscritos.textos (b := DoisInscritos.inicio) rfl rfl
    RetornoNoMeio.umDeCadaVez
  ⟨run.1, run.2 (by decide +kernel)⟩

end IccvBackend
