/-
Module: IccvBackend.Proofs.PrintedCodes
Purpose: When every certificate on paper verifies, with any number of printing calls in flight.
Trusted boundary: none
Main exports: Certificados.PapelConfere, Certificados.CodigoInedito, Certificados.papelConfere_run
-/
import IccvBackend.Certificado.Service
import IccvBackend.Lib.Transitions
import Mathlib.Data.List.Nodup

namespace IccvBackend

open Lib

namespace Certificados

variable (textos : TextosDoCertificado)

/-! ### The law and its condition -/

/-- The codes on record, each with its registration. -/
def gravados (s : Certificados) : List ((Id × Id) × String) :=
  s.inscricoes.filterMap fun row =>
    row.certificateCode.map fun codigo => (chaveDaInscricao row, codigo)

/-- Every code that a registration has had. -/
def lembrar (dados : List ((Id × Id) × String)) (_ : Certificados) (_ : Acao) (s' : Certificados) :
    List ((Id × Id) × String) :=
  dados ++ s'.gravados

/-- What is on paper verifies while the registration, the check-in and the certificate of the event
stand, and no code is on the paper of two registrations. -/
structure PapelConfere (s : Certificados) : Prop where
  confere : ∀ papel ∈ s.impressos, (papel.userId, papel.eventId) ∈
    s.inscricoes.map chaveDaInscricao → s.fezCheckin papel.userId papel.eventId → ∀ event,
      lookup EventoDoCertificado.id papel.eventId s.eventos = some event → event.ligado →
        ∃ v, s.verificar textos papel.codigo = .ok v ∧ v.codigo = papel.codigo ∧
          v.nome = s.nomes papel.userId ∧ v.evento = event.name
  umaPessoa : ∀ papel ∈ s.impressos, ∀ outro ∈ s.impressos, papel.codigo = outro.codigo →
    papel.userId = outro.userId ∧ papel.eventId = outro.eventId

/-- The registration that a call writes its code to has none, and the code was not that of a
registration removed since. -/
def CodigoInedito (sd : Certificados × List ((Id × Id) × String)) (acao : Acao) : Prop :=
  ∀ i codigo eventId presentes codigos p restantes tentativa inscricoes,
    acao = .sortear i codigo →
      sd.1.emissoes[i]? = some (.emitindo eventId presentes codigos (p :: restantes) tentativa) →
        sd.1.gravarCodigo p.userId eventId codigo.texto = .gravou inscricoes →
          (∀ row ∈ sd.1.inscricoes, chaveDaInscricao row = (p.userId, eventId) →
            row.certificateCode = none) ∧
          ∀ chave, (chave, codigo.texto) ∈ sd.2 → chave ∈ sd.1.inscricoes.map chaveDaInscricao

/-- The table as the two unique keys leave it, with codes that were drawn. -/
structure Integra (s : Certificados) : Prop where
  chaves : (s.inscricoes.map chaveDaInscricao).Nodup
  codigos : ∀ row ∈ s.inscricoes, ∀ outra ∈ s.inscricoes, ∀ codigo,
    row.certificateCode = some codigo → outra.certificateCode = some codigo →
      chaveDaInscricao row = chaveDaInscricao outra
  sorteados : ∀ row ∈ s.inscricoes, ∀ codigo, row.certificateCode = some codigo →
    ∃ sorteado : CodigoSorteado, codigo = sorteado.texto

/-! ### The invariant -/

variable {textos} {s s' : Certificados} {dados : List ((Id × Id) × String)}

/-- The codes a call has or has read are codes of their registrations. -/
def EmissaoFirme (dados : List ((Id × Id) × String)) : Emissao → Prop
  | .emitindo eventId presentes codigos restantes _ =>
      (∀ par ∈ codigos, ((par.1, eventId), par.2) ∈ dados) ∧
      (∀ p ∈ restantes, ∀ codigo, p.certificateCode = some codigo →
        ((p.userId, eventId), codigo) ∈ dados) ∧
      ∀ p ∈ presentes, p.userId ∈ codigos.map Prod.fst ∨ p.userId ∈ restantes.map Presente.userId
  | _ => True

structure Firme (sd : Certificados × List ((Id × Id) × String)) : Prop where
  chaves : (sd.1.inscricoes.map chaveDaInscricao).Nodup
  gravados : ∀ dado ∈ sd.1.gravados, dado ∈ sd.2
  firme : ∀ dado ∈ sd.2, ∀ row ∈ sd.1.inscricoes, chaveDaInscricao row = dado.1 →
    row.certificateCode = some dado.2
  umDono : ∀ dado ∈ sd.2, ∀ outro ∈ sd.2, dado.2 = outro.2 → dado = outro
  sorteados : ∀ dado ∈ sd.2, ∃ sorteado : CodigoSorteado, dado.2 = sorteado.texto
  impressos : ∀ papel ∈ sd.1.impressos, ((papel.userId, papel.eventId), papel.codigo) ∈ sd.2
  emissoes : ∀ emissao ∈ sd.1.emissoes, EmissaoFirme sd.2 emissao

theorem mem_gravados {chave : Id × Id} {codigo : String} :
    (chave, codigo) ∈ s.gravados ↔
      ∃ row ∈ s.inscricoes, chaveDaInscricao row = chave ∧ row.certificateCode = some codigo := by
  simp only [Certificados.gravados, List.mem_filterMap, Option.map_eq_some_iff, Prod.mk.injEq]
  constructor
  · rintro ⟨row, mem, _, code, key, rfl⟩
    exact ⟨row, mem, key, code⟩
  · rintro ⟨row, mem, key, code⟩
    exact ⟨row, mem, codigo, code, key, rfl⟩

/-- A code on record answers with its registration. -/
theorem Firme.papelConfere {sd : Certificados × List ((Id × Id) × String)}
    (mantem : textos.MantemCodigos) (firme : Firme sd) : PapelConfere textos sd.1 := by
  refine ⟨fun papel mem exists' checkin event found on => ?_, fun papel mem outro mem' same => ?_⟩
  · have given := firme.impressos papel mem
    obtain ⟨row, row_mem, key⟩ := List.mem_map.mp exists'
    have code : row.certificateCode = some papel.codigo := firme.firme _ given row row_mem key
    obtain ⟨sorteado, drawn⟩ := firme.sorteados _ given
    have normal : textos.toUpperCase (textos.trim papel.codigo) = papel.codigo := by
      obtain ⟨trim, upper⟩ := mantem sorteado
      rw [show papel.codigo = sorteado.texto from drawn, trim, upper]
    have there : (sd.1.inscricoes.find? fun row =>
        row.certificateCode = some papel.codigo).isSome := by
      rw [List.find?_isSome]
      exact ⟨row, row_mem, decide_eq_true code⟩
    obtain ⟨other, look⟩ := Option.isSome_iff_exists.mp there
    have other_code : other.certificateCode = some papel.codigo := by
      simpa using List.find?_some look
    have same : (chaveDaInscricao other, papel.codigo) =
        ((papel.userId, papel.eventId), papel.codigo) :=
      firme.umDono _ (firme.gravados _ (mem_gravados.mpr
        ⟨other, List.mem_of_find?_eq_some look, rfl, other_code⟩)) _ given rfl
    obtain ⟨user, event'⟩ := Prod.mk.inj (Prod.mk.inj same).1
    refine ⟨{ codigo := papel.codigo
              nome := sd.1.nomes papel.userId
              evento := event.name
              igreja := event.igreja.getD ""
              periodo := textos.periodoPorExtenso event.startDate event.endDate
              cargaHoraria := event.certConfig.bind ConfigDoCertificado.workload },
      ?_, rfl, rfl, rfl⟩
    simp only [verificar, normal, look, bind_eq_ok_iff, orFail_eq_ok_iff, failIf_eq_ok_iff,
      pure_eq_ok_iff]
    refine ⟨other, rfl, (), ?_, event, ?_, (), ?_, ?_⟩
    · rw [user, event', checkin]
      decide
    · rw [event', found]
    · rw [on]
      decide
    · rw [user]
  · have pair := firme.umDono _ (firme.impressos papel mem) _ (firme.impressos outro mem') same
    exact Prod.mk.inj (Prod.mk.inj pair).1

/-! ### Steps that write no code -/

theorem EmissaoFirme.mono {depois : List ((Id × Id) × String)} {emissao : Emissao}
    (sub : ∀ dado ∈ dados, dado ∈ depois) (firme : EmissaoFirme dados emissao) :
    EmissaoFirme depois emissao := by
  cases emissao with
  | emitindo eventId presentes codigos restantes tentativa =>
      obtain ⟨feitos, lidos, todos⟩ := firme
      exact ⟨fun par mem => sub _ (feitos par mem),
        fun p mem codigo code => sub _ (lidos p mem codigo code),
        todos⟩
  | lendo eventId pedido => trivial
  | encerrada resultado => trivial

/-- Passing over the rows that have a code. -/
theorem emissaoFirme_adiante {eventId : Id} {presentes restantes : List Presente}
    {codigos : List (Id × String)} {tentativa : Nat}
    (firme : EmissaoFirme dados (.emitindo eventId presentes codigos restantes tentativa))
    (depois : Nat) :
    EmissaoFirme dados (.emitindo eventId presentes (adiante codigos restantes).1
      (adiante codigos restantes).2 depois) := by
  induction restantes generalizing codigos with
  | nil => exact firme
  | cons p restantes ih =>
      obtain ⟨feitos, lidos, todos⟩ := firme
      rw [adiante]
      split
      · exact ⟨feitos, lidos, todos⟩
      · next given =>
          obtain ⟨codigo, code⟩ : ∃ codigo, p.certificateCode = some codigo := by
            cases own : p.certificateCode with
            | none =>
                rw [own] at given
                exact absurd rfl given
            | some codigo => exact ⟨codigo, rfl⟩
          rw [code, Option.getD_some]
          refine ih ⟨fun par mem => ?_, fun q mem => lidos q (List.mem_cons_of_mem _ mem),
            fun q mem => ?_⟩
          · rcases List.mem_append.mp mem with old | new
            · exact feitos par old
            · obtain rfl := List.mem_singleton.mp new
              exact lidos p List.mem_cons_self codigo code
          · rw [List.map_append, List.mem_append]
            rcases todos q mem with done | left
            · exact .inl (.inl done)
            · rw [List.map_cons, List.mem_cons] at left
              exact left.imp (fun own => .inr (by simp [own])) id

/-- A step that writes no code leaves what is firm, if its calls and its paper are. -/
theorem Firme.quieta (firme : Firme (s, dados)) (sub : s'.inscricoes.Sublist s.inscricoes)
    (impressos : ∀ papel ∈ s'.impressos, ((papel.userId, papel.eventId), papel.codigo) ∈ dados)
    (emissoes : ∀ emissao ∈ s'.emissoes, EmissaoFirme dados emissao) (acao : Acao) :
    Firme (s', lembrar dados s acao s') := by
  have old : ∀ dado ∈ dados ++ s'.gravados, dado ∈ dados := by
    intro dado mem
    rcases List.mem_append.mp mem with before | now
    · exact before
    · obtain ⟨row, row_mem, key, code⟩ := mem_gravados.mp now
      exact firme.gravados dado (mem_gravados.mpr ⟨row, sub.subset row_mem, key, code⟩)
  exact
    { chaves := firme.chaves.sublist (sub.map _)
      gravados := fun dado mem => List.mem_append_right _ mem
      firme := fun dado mem row row_mem => firme.firme dado (old dado mem) row (sub.subset row_mem)
      umDono := fun dado mem outro mem' => firme.umDono dado (old dado mem) outro (old outro mem')
      sorteados := fun dado mem => firme.sorteados dado (old dado mem)
      impressos := fun papel mem => List.mem_append_left _ (impressos papel mem)
      emissoes := fun emissao mem =>
        (emissoes emissao mem).mono fun dado there => List.mem_append_left _ there }

theorem emissaoFirme_lerPresentes (firme : Firme (s, dados)) (eventId : Id)
    (pedido : PedidoDeCertificado) :
    EmissaoFirme dados (emFalha (s.lerPresentes textos eventId pedido)) := by
  have read : ∀ userIds, ∀ p ∈ s.presentes textos eventId userIds, ∀ codigo,
      p.certificateCode = some codigo → ((p.userId, eventId), codigo) ∈ dados := by
    intro userIds p mem codigo code
    rw [Certificados.presentes, List.mem_mergeSort] at mem
    obtain ⟨row, row_mem, rfl⟩ := List.mem_map.mp mem
    obtain ⟨there, chosen⟩ := List.mem_filter.mp row_mem
    simp only [Bool.and_eq_true, decide_eq_true_eq] at chosen
    refine firme.gravados _ (mem_gravados.mpr ⟨row, there, ?_, code⟩)
    rw [chaveDaInscricao, chosen.1.1]
  cases ok : s.lerPresentes textos eventId pedido with
  | error e => trivial
  | ok emissao =>
      have start : ∀ presentes : List Presente, (∀ p ∈ presentes, ∀ codigo,
          p.certificateCode = some codigo → ((p.userId, eventId), codigo) ∈ dados) →
          EmissaoFirme dados (.emitindo eventId presentes (adiante [] presentes).1
            (adiante [] presentes).2 1) := by
        intro presentes known
        have before : EmissaoFirme dados (.emitindo eventId presentes [] presentes 1) :=
          ⟨fun _ mem => absurd mem List.not_mem_nil, known,
            fun p mem => .inr (List.mem_map_of_mem mem)⟩
        exact emissaoFirme_adiante before 1
      cases pedido with
      | pdfDosCertificados userIds =>
          simp only [lerPresentes, bind_eq_ok_iff, pure_eq_ok_iff] at ok
          obtain ⟨_, ⟨_, _, rfl⟩, rfl⟩ := ok
          exact start _ (read userIds)
      | pdfDoMeuCertificado userId =>
          simp only [lerPresentes, bind_eq_ok_iff, pure_eq_ok_iff] at ok
          obtain ⟨_, ⟨_, _, rfl⟩, rfl⟩ := ok
          exact start _ fun p mem => read [userId] p (List.mem_of_mem_take mem)

/-! ### The write of a code -/

theorem gravarCodigo_gravou {userId eventId : Id} {codigo : String} {inscricoes : List EventOnUsers}
    (ok : s.gravarCodigo userId eventId codigo = .gravou inscricoes) :
    (userId, eventId) ∈ s.inscricoes.map chaveDaInscricao ∧
      (∀ row ∈ s.inscricoes, row.certificateCode = some codigo →
        chaveDaInscricao row = (userId, eventId)) ∧
      inscricoes = updateKey chaveDaInscricao (userId, eventId)
        (fun row => { row with certificateCode := some codigo }) s.inscricoes := by
  rw [gravarCodigo] at ok
  split at ok
  · cases ok
  · next row found =>
      split at ok
      · cases ok
      · next free =>
          refine ⟨List.mem_map.mpr ⟨row, lookup_mem found, lookup_key found⟩, ?_,
            (Gravacao.gravou.inj ok).symm⟩
          simpa using free

/-- A new code belongs to the registration that got it and to nobody else. -/
theorem Firme.gravou (firme : Firme (s, dados)) {userId eventId : Id} {codigo : CodigoSorteado}
    {inscricoes : List EventOnUsers}
    (ok : s.gravarCodigo userId eventId codigo.texto = .gravou inscricoes)
    (semCodigo : ∀ row ∈ s.inscricoes, chaveDaInscricao row = (userId, eventId) →
      row.certificateCode = none)
    (inedito : ∀ chave, (chave, codigo.texto) ∈ dados → chave ∈ s.inscricoes.map chaveDaInscricao)
    {emissoes : List Emissao}
    (calls : ∀ emissao ∈ emissoes,
      EmissaoFirme (dados ++ [((userId, eventId), codigo.texto)]) emissao) (acao : Acao) :
    Firme ({ s with inscricoes := inscricoes, emissoes := emissoes },
      lembrar dados s acao { s with inscricoes := inscricoes, emissoes := emissoes }) := by
  obtain ⟨exists', free, rfl⟩ := gravarCodigo_gravou ok
  obtain ⟨alvo, alvo_mem, alvo_key⟩ := List.mem_map.mp exists'
  have unused : ∀ chave, (chave, codigo.texto) ∉ dados := by
    intro chave given
    obtain ⟨row, mem, key⟩ := List.mem_map.mp (inedito chave given)
    have code := firme.firme _ given row mem key
    have none := semCodigo row mem (free row mem code)
    rw [code] at none
    cases none
  have without : ∀ valor, ((userId, eventId), valor) ∉ dados := by
    intro valor given
    have code := firme.firme _ given alvo alvo_mem alvo_key
    rw [semCodigo alvo alvo_mem alvo_key] at code
    cases code
  have written : ∀ dado ∈ ({ s with
      inscricoes := updateKey chaveDaInscricao (userId, eventId)
        (fun row => { row with certificateCode := some codigo.texto }) s.inscricoes
      emissoes := emissoes } : Certificados).gravados,
      dado ∈ dados ∨ dado = ((userId, eventId), codigo.texto) := by
    intro dado mem
    obtain ⟨row, row_mem, key, code⟩ := mem_gravados.mp mem
    rcases mem_updateKey.mp row_mem with ⟨old, _, own, rfl⟩ | ⟨was, _⟩
    · exact .inr (Prod.ext (key.symm.trans own) (Option.some.inj code).symm)
    · exact .inl (firme.gravados dado (mem_gravados.mpr ⟨row, was, key, code⟩))
  have new : ((userId, eventId), codigo.texto) ∈ ({ s with
      inscricoes := updateKey chaveDaInscricao (userId, eventId)
        (fun row => { row with certificateCode := some codigo.texto }) s.inscricoes
      emissoes := emissoes } : Certificados).gravados :=
    mem_gravados.mpr ⟨_, mem_updateKey.mpr (.inl ⟨alvo, alvo_mem, alvo_key, rfl⟩), alvo_key, rfl⟩
  have given : ∀ dado ∈ dados ++ ({ s with
      inscricoes := updateKey chaveDaInscricao (userId, eventId)
        (fun row => { row with certificateCode := some codigo.texto }) s.inscricoes
      emissoes := emissoes } : Certificados).gravados,
      dado ∈ dados ∨ dado = ((userId, eventId), codigo.texto) := fun dado mem =>
    (List.mem_append.mp mem).elim .inl (written dado)
  refine
    { chaves := ?_
      gravados := fun dado mem => List.mem_append_right _ mem
      firme := fun dado mem row row_mem key => ?_
      umDono := fun dado mem outro mem' same => ?_
      sorteados := fun dado mem => ?_
      impressos := fun papel mem => List.mem_append_left _ (firme.impressos papel mem)
      emissoes := fun emissao mem => (calls emissao mem).mono fun dado there => ?_ }
  · rw [map_updateKey]
    · exact firme.chaves
    · exact fun _ _ _ => rfl
  · rcases given dado mem with old | rfl
    · rcases mem_updateKey.mp row_mem with ⟨before, _, own, rfl⟩ | ⟨was, _⟩
      · have mine : dado = ((userId, eventId), dado.2) := Prod.ext (key.symm.trans own) rfl
        exact absurd (mine ▸ old) (without dado.2)
      · exact firme.firme dado old row was key
    · rcases mem_updateKey.mp row_mem with ⟨before, _, own, rfl⟩ | ⟨_, other⟩
      · rfl
      · exact absurd key other
  · rcases given dado mem with old | rfl <;> rcases given outro mem' with old' | rfl
    · exact firme.umDono dado old outro old' same
    · have pair : dado = (dado.1, codigo.texto) := Prod.ext rfl same
      rw [pair] at old
      exact absurd old (unused dado.1)
    · have pair : outro = (outro.1, codigo.texto) := Prod.ext rfl same.symm
      rw [pair] at old'
      exact absurd old' (unused outro.1)
    · rfl
  · rcases given dado mem with old | rfl
    · exact firme.sorteados dado old
    · exact ⟨codigo, rfl⟩
  · rcases List.mem_append.mp there with old | own
    · exact List.mem_append_left _ old
    · obtain rfl := List.mem_singleton.mp own
      exact List.mem_append_right _ new

/-! ### Steps and runs -/

/-- The calls after one of them has moved. -/
theorem emissoes_set (firme : Firme (s, dados)) {i : Nat} {emissao : Emissao}
    (moved : EmissaoFirme dados emissao) :
    ∀ outra ∈ s.emissoes.set i emissao, EmissaoFirme dados outra := by
  intro outra mem
  rcases List.mem_or_eq_of_mem_set mem with old | rfl
  · exact firme.emissoes outra old
  · exact moved

theorem emissaoFirme_comecar (eventId : Id) (agora : Instant) (pedido : PedidoDeCertificado) :
    EmissaoFirme dados (emFalha (s.comecar eventId agora pedido)) := by
  cases ok : s.comecar eventId agora pedido with
  | error e => trivial
  | ok emissao =>
      obtain ⟨event, _, ok⟩ := bind_eq_ok_iff.mp ok
      cases pedido with
      | pdfDosCertificados userIds =>
          simp only [bind_eq_ok_iff, pure_eq_ok_iff] at ok
          obtain ⟨_, _, rfl⟩ := ok
          trivial
      | pdfDoMeuCertificado userId =>
          simp only [bind_eq_ok_iff, pure_eq_ok_iff] at ok
          obtain ⟨_, _, _, _, rfl⟩ := ok
          trivial

/-- Each page carries a code that the call has. -/
theorem paginas_firmes {eventId : Id} {presentes : List Presente} {codigos : List (Id × String)}
    {tentativa : Nat} (firme : EmissaoFirme dados (.emitindo eventId presentes codigos []
      tentativa)) :
    ∀ papel ∈ paginas eventId presentes codigos,
      ((papel.userId, papel.eventId), papel.codigo) ∈ dados := by
  intro papel mem
  obtain ⟨p, p_mem, rfl⟩ := List.mem_map.mp mem
  obtain ⟨feitos, _, todos⟩ := firme
  have has : p.userId ∈ codigos.map Prod.fst := (todos p p_mem).elim id fun left =>
    absurd left List.not_mem_nil
  cases found : codigos.lookup p.userId with
  | none =>
      obtain ⟨par, par_mem, user⟩ := List.mem_map.mp has
      have other := List.lookup_eq_none_iff.mp found par par_mem
      rw [user] at other
      simp at other
  | some codigo =>
      obtain ⟨before, after, split, _⟩ := List.lookup_eq_some_iff.mp found
      rw [Option.getD_some]
      exact feitos (p.userId, codigo) (by rw [split]; simp)

/-- One attempt of a call keeps what is firm, if the code it writes is new. -/
theorem Firme.sortear (firme : Firme (s, dados)) {i : Nat} {eventId : Id}
    {presentes restantes : List Presente} {codigos : List (Id × String)} {p : Presente}
    {tentativa : Nat} {codigo : CodigoSorteado}
    (call : s.emissoes[i]? = some (.emitindo eventId presentes codigos (p :: restantes) tentativa))
    (guard : ∀ inscricoes, s.gravarCodigo p.userId eventId codigo.texto = .gravou inscricoes →
      (∀ row ∈ s.inscricoes, chaveDaInscricao row = (p.userId, eventId) →
        row.certificateCode = none) ∧
      ∀ chave, (chave, codigo.texto) ∈ dados → chave ∈ s.inscricoes.map chaveDaInscricao)
    {acao : Acao} {depois : Emissao × List EventOnUsers}
    (is : s.sortear eventId presentes codigos p restantes tentativa codigo.texto = depois) :
    Firme ({ s with inscricoes := depois.2, emissoes := s.emissoes.set i depois.1 },
      lembrar dados s acao { s with
        inscricoes := depois.2, emissoes := s.emissoes.set i depois.1 }) := by
  obtain ⟨feitos, lidos, todos⟩ := firme.emissoes _ (List.mem_of_getElem? call)
  have ended : ∀ erro, EmissaoFirme dados (.encerrada erro) := fun _ => trivial
  subst is
  cases written : s.gravarCodigo p.userId eventId codigo.texto with
  | gravou inscricoes =>
      obtain ⟨semCodigo, inedito⟩ := guard inscricoes written
      simp only [Certificados.sortear, written]
      refine firme.gravou written semCodigo inedito (fun emissao mem => ?_) _
      rcases List.mem_or_eq_of_mem_set mem with old | rfl
      · exact (firme.emissoes emissao old).mono fun dado there => List.mem_append_left _ there
      · have before : EmissaoFirme (dados ++ [((p.userId, eventId), codigo.texto)])
            (.emitindo eventId presentes (codigos ++ [(p.userId, codigo.texto)]) restantes 1) := by
          refine ⟨fun par par_mem => ?_, fun q q_mem valor code => List.mem_append_left _
            (lidos q (List.mem_cons_of_mem _ q_mem) valor code), fun q q_mem => ?_⟩
          · rcases List.mem_append.mp par_mem with before | new
            · exact List.mem_append_left _ (feitos par before)
            · rw [List.mem_singleton.mp new]
              exact List.mem_append_right _ (List.mem_singleton.mpr rfl)
          · rw [List.map_append, List.mem_append]
            rcases todos q q_mem with done | left
            · exact .inl (.inl done)
            · rw [List.map_cons, List.mem_cons] at left
              exact left.imp (fun own => .inr (by simp [own])) id
        exact emissaoFirme_adiante before 1
  | colisao =>
      simp only [Certificados.sortear, written]
      split
      · refine firme.quieta ?_ ?_ ?_ _
        · exact List.Sublist.refl _
        · exact firme.impressos
        · exact emissoes_set firme (ended _)
      · have again : EmissaoFirme dados
            (.emitindo eventId presentes codigos (p :: restantes) (tentativa + 1)) :=
          ⟨feitos, lidos, todos⟩
        refine firme.quieta ?_ ?_ ?_ _
        · exact List.Sublist.refl _
        · exact firme.impressos
        · exact emissoes_set firme again
  | ausente =>
      simp only [Certificados.sortear, written]
      refine firme.quieta ?_ ?_ ?_ _
      · exact List.Sublist.refl _
      · exact firme.impressos
      · exact emissoes_set firme (ended _)

theorem Firme.step {sd : Certificados × List ((Id × Id) × String)} {acao : Acao}
    (firme : Firme sd) (guard : CodigoInedito sd acao) :
    Firme (withHistory (Certificados.step textos) lembrar sd acao) := by
  obtain ⟨s, dados⟩ := sd
  have stays : Firme (s, lembrar dados s acao s) :=
    firme.quieta (List.Sublist.refl _) firme.impressos firme.emissoes acao
  rw [withHistory]
  cases acao with
  | nova eventId agora pedido =>
      refine firme.quieta ?_ ?_ ?_ _
      · exact List.Sublist.refl _
      · exact firme.impressos
      · intro emissao mem
        rcases List.mem_append.mp mem with old | new
        · exact firme.emissoes emissao old
        · rw [List.mem_singleton.mp new]
          exact emissaoFirme_comecar eventId agora pedido
  | presentes i =>
      simp only [Certificados.step]
      split
      · next eventId pedido call =>
          refine firme.quieta ?_ ?_ ?_ _
          · exact List.Sublist.refl _
          · exact firme.impressos
          · exact emissoes_set firme (emissaoFirme_lerPresentes firme eventId pedido)
      · exact stays
  | sortear i codigo =>
      simp only [Certificados.step]
      split
      · next eventId presentes codigos p restantes tentativa call =>
          exact firme.sortear call (fun inscricoes written => guard i codigo eventId presentes
            codigos p restantes tentativa inscricoes rfl call written) rfl
      · exact stays
  | imprimir i =>
      simp only [Certificados.step]
      split
      · next eventId presentes codigos tentativa call =>
          refine firme.quieta ?_ ?_ ?_ _
          · exact List.Sublist.refl _
          · intro papel mem
            rcases List.mem_append.mp mem with old | new
            · exact firme.impressos papel old
            · exact paginas_firmes (firme.emissoes _ (List.mem_of_getElem? call)) papel new
          · exact emissoes_set firme (show EmissaoFirme dados (.encerrada (.ok ())) from trivial)
      · exact stays
  | remover userId eventId =>
      refine firme.quieta ?_ ?_ ?_ _
      · exact List.filter_sublist
      · exact firme.impressos
      · exact firme.emissoes
  | fora checkins eventos nomes =>
      refine firme.quieta ?_ ?_ ?_ _
      · exact List.Sublist.refl _
      · exact firme.impressos
      · exact firme.emissoes

theorem Integra.firme (integra : s.Integra) (emissoes : s.emissoes = [])
    (impressos : s.impressos = []) : Firme (s, s.gravados) where
  chaves := integra.chaves
  gravados := fun dado mem => mem
  firme := by
    intro dado mem row row_mem key
    obtain ⟨other, other_mem, other_key, code⟩ := mem_gravados.mp mem
    rw [List.inj_on_of_nodup_map integra.chaves row_mem other_mem (key.trans other_key.symm)]
    exact code
  umDono := by
    intro dado mem outro mem' same
    obtain ⟨row, row_mem, key, code⟩ := mem_gravados.mp mem
    obtain ⟨other, other_mem, other_key, other_code⟩ := mem_gravados.mp mem'
    have owner := integra.codigos row row_mem other other_mem dado.2 code (same ▸ other_code)
    exact Prod.ext (key.symm.trans (owner.trans other_key)) same
  sorteados := by
    intro dado mem
    obtain ⟨row, row_mem, _, code⟩ := mem_gravados.mp mem
    exact integra.sorteados row row_mem dado.2 code
  impressos := by
    intro papel mem
    rw [impressos] at mem
    cases mem
  emissoes := by
    intro emissao mem
    rw [emissoes] at mem
    cases mem

variable (textos)

/-- In every run whose codes are all written to registrations without one, and are not those of
registrations removed since, what is on paper verifies in every state. -/
theorem papelConfere_run (mantem : textos.MantemCodigos) (s : Certificados) (integra : s.Integra)
    (emissoes : s.emissoes = []) (impressos : s.impressos = []) (acoes : List Acao)
    (guarda : EachStep (withHistory (Certificados.step textos) lembrar) CodigoInedito
      (s, s.gravados) acoes) :
    Always (Certificados.step textos) (PapelConfere textos) s acoes := by
  have firme : Always (withHistory (Certificados.step textos) lembrar) Firme
      (s, s.gravados) acoes :=
    always_of_eachStep (fun _ _ firme guard => firme.step guard) (integra.firme emissoes impressos)
      guarda
  have confere : Always (withHistory (Certificados.step textos) lembrar)
      (fun sd => PapelConfere textos sd.1) (s, s.gravados) acoes :=
    firme.mono fun _ firme => firme.papelConfere mantem
  exact (always_withHistory (s, s.gravados)).mp confere

end Certificados

/-! ### Two printings of one certificate -/

namespace UmInscrito

open Certificados

def textos : TextosDoCertificado := ⟨fun s => s, fun s => s, fun _ _ => true, fun _ _ => ""⟩

/-- The code made of one letter. -/
def codigo (letra : Char) (mem : letra ∈ alfabeto) : CodigoSorteado :=
  ⟨List.replicate 8 letra, List.length_replicate, fun _ there =>
    List.eq_of_mem_replicate there ▸ mem⟩

def codigoA : CodigoSorteado := codigo 'A' (by decide)

def codigoB : CodigoSorteado := codigo 'B' (by decide)

/-- A person who was at an event that gives certificates. -/
def estado (codigo : Option String) (emissoes : List Emissao)
    (impressos : List CertificadoImpresso) : Certificados where
  inscricoes := [⟨1, 5, .notRequired, none, none, none, none, none, codigo, []⟩]
  checkins := [⟨1, 5, .done, none⟩]
  eventos := [⟨5, "Retiro", 0, 0, some "Igreja", some ⟨true, none⟩⟩]
  nomes := fun _ => "Ana"
  emissoes := emissoes
  impressos := impressos

def pedido : PedidoDeCertificado := .pdfDosCertificados [1]

def ana : Presente := ⟨1, none, "Ana"⟩

/-- A call of the panel that has read the person without a code. -/
def lida : Emissao := .emitindo 5 [ana] [] [ana] 1

section Corrida

variable {emissoes : List Emissao} {impressos : List CertificadoImpresso} {i : Nat}
  {antes : Option String}

theorem step_nova : Certificados.step textos (estado antes emissoes impressos) (.nova 5 0 pedido) =
    estado antes (emissoes ++ [.lendo 5 pedido]) impressos :=
  rfl

theorem step_presentes (call : emissoes[i]? = some (.lendo 5 pedido)) :
    Certificados.step textos (estado none emissoes impressos) (.presentes i) =
      estado none (emissoes.set i lida) impressos := by
  have read : (estado none emissoes impressos).presentes textos 5 [1] = [ana] := by
    simp [Certificados.presentes, estado, fezCheckin, ana]
  have there : (estado none emissoes impressos).emissoes[i]? = some (.lendo 5 pedido) := call
  simp only [Certificados.step, there, lerPresentes, pedido, read]
  rfl

theorem step_sortear (codigo : CodigoSorteado) (call : emissoes[i]? = some lida) :
    Certificados.step textos (estado antes emissoes impressos) (.sortear i codigo) =
      estado (some codigo.texto)
        (emissoes.set i (.emitindo 5 [ana] [(1, codigo.texto)] [] 1)) impressos := by
  have written : (estado antes emissoes impressos).gravarCodigo 1 5 codigo.texto =
      .gravou (estado (some codigo.texto) emissoes impressos).inscricoes := by
    simp [gravarCodigo, estado, lookup, chaveDaInscricao, updateKey]
  have there : (estado antes emissoes impressos).emissoes[i]? =
      some (.emitindo 5 [ana] [] [ana] 1) := call
  simp only [Certificados.step, there, sortear, ana, written]
  rfl

theorem step_imprimir {codigo : String}
    (call : emissoes[i]? = some (.emitindo 5 [ana] [(1, codigo)] [] 1)) :
    Certificados.step textos (estado antes emissoes impressos) (.imprimir i) =
      estado antes (emissoes.set i (.encerrada (.ok ())))
        (impressos ++ [⟨1, 5, "Ana", codigo⟩]) := by
  have there : (estado antes emissoes impressos).emissoes[i]? =
      some (.emitindo 5 [ana] [(1, codigo)] [] 1) := call
  simp only [Certificados.step, there]
  rfl

end Corrida

/-- One call from end to end. -/
def umaVez : List Certificados.Acao :=
  [.nova 5 0 pedido, .presentes 0, .sortear 0 codigoA, .imprimir 0]

/-- Two calls that read the person before either writes her code. -/
def duasVezes : List Certificados.Acao :=
  [.nova 5 0 pedido, .nova 5 0 pedido, .presentes 0, .presentes 1, .sortear 0 codigoA, .imprimir 0,
    .sortear 1 codigoB, .imprimir 1]

theorem integra : (estado none [] []).Integra where
  chaves := by decide
  codigos := by
    intro row mem outra _ codigo code
    obtain rfl := List.mem_singleton.mp mem
    cases code
  sorteados := by
    intro row mem codigo code
    obtain rfl := List.mem_singleton.mp mem
    cases code

/-- A step that writes no code meets the condition. -/
theorem inedito_outra {sd : Certificados × List ((Id × Id) × String)} {acao : Certificados.Acao}
    (outra : ∀ i codigo, acao ≠ .sortear i codigo) : CodigoInedito sd acao :=
  fun i codigo _ _ _ _ _ _ _ is => absurd is (outra i codigo)

theorem umaVez_guarda : EachStep (withHistory (Certificados.step textos) lembrar) CodigoInedito
    (estado none [] [], (estado none [] []).gravados) umaVez := by
  have s2 : Certificados.step textos (estado none [.lendo 5 pedido] []) (.presentes 0) = _ :=
    step_presentes rfl
  simp only [umaVez, eachStep_cons, withHistory, step_nova, List.nil_append, s2]
  refine ⟨inedito_outra fun _ _ => by simp, inedito_outra fun _ _ => by simp, ?_,
    inedito_outra fun _ _ => by simp, trivial⟩
  intro i codigo eventId presentes codigos p restantes tentativa inscricoes _ _ _
  refine ⟨fun row mem _ => ?_, fun chave given => ?_⟩
  · obtain rfl := List.mem_singleton.mp mem
    rfl
  · exact absurd given List.not_mem_nil

end UmInscrito

/-- A certificate printed once verifies. -/
theorem papelConfere_run_umaVez :
    Always (Certificados.step UmInscrito.textos) (Certificados.PapelConfere UmInscrito.textos)
      (UmInscrito.estado none [] []) UmInscrito.umaVez :=
  Certificados.papelConfere_run UmInscrito.textos (fun _ =>
    ⟨rfl, rfl⟩) (UmInscrito.estado none [] [])
    UmInscrito.integra rfl rfl UmInscrito.umaVez UmInscrito.umaVez_guarda

/-- The second call overwrites the code on the paper of the first. -/
theorem papelConfere_duasVezes :
    UmInscrito.textos.MantemCodigos ∧ (UmInscrito.estado none [] []).Integra ∧
      ¬ Always (Certificados.step UmInscrito.textos) (Certificados.PapelConfere UmInscrito.textos)
        (UmInscrito.estado none [] []) UmInscrito.duasVezes := by
  refine ⟨fun _ => ⟨rfl, rfl⟩, UmInscrito.integra, fun always => ?_⟩
  have last := always.last
  have s3 : Certificados.step UmInscrito.textos (UmInscrito.estado none [.lendo 5 UmInscrito.pedido,
      .lendo 5 UmInscrito.pedido] []) (.presentes 0) = _ := UmInscrito.step_presentes rfl
  have s4 : Certificados.step UmInscrito.textos (UmInscrito.estado none [UmInscrito.lida,
      .lendo 5 UmInscrito.pedido] []) (.presentes 1) = _ := UmInscrito.step_presentes rfl
  have s5 : Certificados.step UmInscrito.textos (UmInscrito.estado none [UmInscrito.lida,
      UmInscrito.lida] []) (.sortear 0 UmInscrito.codigoA) = _ := UmInscrito.step_sortear _ rfl
  have s6 : Certificados.step UmInscrito.textos (UmInscrito.estado
      (some UmInscrito.codigoA.texto) [.emitindo 5 [UmInscrito.ana]
        [(1, UmInscrito.codigoA.texto)] [] 1, UmInscrito.lida] []) (.imprimir 0) = _ :=
    UmInscrito.step_imprimir rfl
  have s7 : Certificados.step UmInscrito.textos (UmInscrito.estado
      (some UmInscrito.codigoA.texto) [.encerrada (.ok ()), UmInscrito.lida]
        [⟨1, 5, "Ana", UmInscrito.codigoA.texto⟩]) (.sortear 1 UmInscrito.codigoB) = _ :=
    UmInscrito.step_sortear _ rfl
  have s8 : Certificados.step UmInscrito.textos (UmInscrito.estado
      (some UmInscrito.codigoB.texto) [.encerrada (.ok ()), .emitindo 5 [UmInscrito.ana]
        [(1, UmInscrito.codigoB.texto)] [] 1] [⟨1, 5, "Ana", UmInscrito.codigoA.texto⟩])
      (.imprimir 1) = _ := UmInscrito.step_imprimir rfl
  simp only [List.set_cons_zero, List.set_cons_succ] at s3 s4 s5 s6 s7 s8
  simp only [UmInscrito.duasVezes, runFrom_cons, runFrom_nil, UmInscrito.step_nova,
    List.nil_append, List.cons_append, s3, s4, s5, s6, s7, s8] at last
  obtain ⟨v, verified, _⟩ :=
      last.confere ⟨1, 5, "Ana", UmInscrito.codigoA.texto⟩ (by simp [UmInscrito.estado])
    (by decide) rfl _ rfl rfl
  have other : UmInscrito.codigoB.texto ≠ UmInscrito.codigoA.texto := by decide
  simp [Certificados.verificar, UmInscrito.estado, UmInscrito.textos, other, orFail, bind,
    Except.bind] at verified

end IccvBackend
