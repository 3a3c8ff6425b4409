/-
Module: IccvBackend.Proofs.ShownTerms
Purpose: When an acceptance of the terms is of a version the person was shown.
Trusted boundary: none
Main exports: Publicacoes.AceitouOQueViu, LidasAte, LeuAVigente, aceitouOQueViu_run
-/
import IccvBackend.Terms.Service

namespace IccvBackend

open Lib

/-! ### The most recent version -/

theorem maisRecente_some {sorte : Nat} {documents : List TermsDocument} {d : TermsDocument}
    (found : maisRecente sorte documents = some d) :
    d ∈ documents ∧ ∀ o ∈ documents, o.publishedAt ≤ d.publishedAt := by
  unfold maisRecente at found
  have mem := List.mem_of_getElem? found
  simpa using mem

/-- Where no two versions have the same instant, the most recent one is not the database's to
choose. -/
theorem maisRecente_unique {documents : List TermsDocument} {d o : TermsDocument}
    (apart : (documents.map TermsDocument.publishedAt).Nodup) (d_mem : d ∈ documents)
    (o_mem : o ∈ documents) (d_last : ∀ x ∈ documents, x.publishedAt ≤ d.publishedAt)
    (o_last : ∀ x ∈ documents, x.publishedAt ≤ o.publishedAt) : d = o :=
  List.inj_on_of_nodup_map apart d_mem o_mem (le_antisymm (o_last d d_mem) (d_last o o_mem))

namespace Publicacoes

/-! ### The law -/

/-- Every acceptance, stored or about to be, is of a version the person was shown; and a person who
is up to date was shown the required version or one published after it. -/
structure AceitouOQueViu (s : Publicacoes) : Prop where
  gravados : ∀ a ∈ s.db.acceptances, (a.userId, a.version) ∈ s.mostradas
  em_curso : ∀ a ∈ s.aceites, (a.userId, a.version) ∈ s.mostradas
  em_dia : ∀ painel userId sorte sorteExigida requerida,
    s.db.exigida sorteExigida = some requerida →
    (s.db.status painel userId sorte sorteExigida).aceito →
    ∃ d ∈ s.db.documents, (userId, d.version) ∈ s.mostradas ∧
      (d = requerida ∨ requerida.publishedAt < d.publishedAt)

/-! ### What a person has read -/

/-- How many versions there were when a person was last shown one. -/
abbrev LidasAte := Id → Nat

/-- A page shown tells the person of every version there is. -/
def anotarLeitura (lidas : LidasAte) (s : Publicacoes) : Acao → LidasAte
  | .atual userId sorte =>
      if (s.db.vigente sorte).isSome then Function.update lidas userId s.db.documents.length
      else lidas
  | _ => lidas

/-- The version in force when a person accepts was there when they were last shown one, and no
version gets the instant of another. -/
def LeuAVigente (sh : Publicacoes × LidasAte) : Acao → Prop
  | .aceitar userId _ sorte =>
      ∀ termos, sh.1.db.vigente sorte = some termos →
        termos ∈ sh.1.db.documents.take (sh.2 userId)
  | .criar i agora =>
      (∃ d ∈ sh.1.db.documents, d.publishedAt = agora) → (sh.1.criar i agora).db = sh.1.db
  | _ => True

/-- The versions have instants of their own, and what a person read includes the version that was
then in force. -/
structure EmDia (sh : Publicacoes × LidasAte) : Prop where
  instantes : (sh.1.db.documents.map TermsDocument.publishedAt).Nodup
  lidas_le : ∀ userId, sh.2 userId ≤ sh.1.db.documents.length
  leu : ∀ userId, ∀ d ∈ sh.1.db.documents.take (sh.2 userId),
    (∀ o ∈ sh.1.db.documents.take (sh.2 userId), o.publishedAt ≤ d.publishedAt) →
    (userId, d.version) ∈ sh.1.mostradas
  gravados : ∀ a ∈ sh.1.db.acceptances, (a.userId, a.version) ∈ sh.1.mostradas
  em_curso : ∀ a ∈ sh.1.aceites, (a.userId, a.version) ∈ sh.1.mostradas

/-- The history along a run. -/
def comLeituras : Publicacoes × LidasAte → Acao → Publicacoes × LidasAte :=
  withHistory agir fun lidas s acao _ => anotarLeitura lidas s acao

theorem EmDia.aceitouOQueViu {sh : Publicacoes × LidasAte} (inv : EmDia sh) :
    sh.1.AceitouOQueViu where
  gravados := inv.gravados
  em_curso := inv.em_curso
  em_dia painel userId sorte sorteExigida requerida found accepted := by
    simp only [Termos.status, found] at accepted
    unfold Termos.exigida at found
    have required := (maisRecente_some found).1
    have req_mem : requerida ∈ sh.1.db.documents := (List.mem_filter.mp required).1
    simp only [Termos.aceito, Option.all_some, List.any_eq_true, Bool.and_eq_true,
      decide_eq_true_eq] at accepted
    obtain ⟨a, a_mem, rfl, d, d_mem, later, version⟩ := accepted
    refine ⟨d, d_mem, version ▸ inv.gravados a a_mem, ?_⟩
    rcases later.eq_or_lt with same | later
    · exact .inl (List.inj_on_of_nodup_map inv.instantes d_mem req_mem same.symm)
    · exact .inr later

/-! ### One step -/

section Passos

variable {s : Publicacoes} {lidas : LidasAte}

/-- A step that writes neither versions, nor acceptances, nor shows a page. -/
theorem EmDia.of_same {s' : Publicacoes} (inv : EmDia (s, lidas))
    (db : s'.db = s.db) (aceites : s'.aceites = s.aceites)
    (mostradas : s'.mostradas = s.mostradas) :
    EmDia (s', lidas) := by
  obtain ⟨instantes, lidas_le, leu, gravados, em_curso⟩ := inv
  constructor <;> simp only [db, aceites, mostradas] at * <;> assumption

/-- A new version, with an instant of its own, was read by nobody. -/
theorem EmDia.documento {s' : Publicacoes} {novo : TermsDocument} (inv : EmDia (s, lidas))
    (fresh : ∀ d ∈ s.db.documents, d.publishedAt ≠ novo.publishedAt)
    (documents : s'.db.documents = s.db.documents ++ [novo])
    (acceptances : s'.db.acceptances = s.db.acceptances) (aceites : s'.aceites = s.aceites)
    (mostradas : s'.mostradas = s.mostradas) : EmDia (s', lidas) where
  instantes := by
    show (s'.db.documents.map TermsDocument.publishedAt).Nodup
    rw [documents, List.map_append, List.nodup_append]
    refine ⟨inv.instantes, by simp, ?_⟩
    intro instante old other new
    obtain ⟨d, mem, rfl⟩ := List.mem_map.mp old
    rw [List.mem_singleton.mp new]
    exact fresh d mem
  lidas_le userId := by
    show lidas userId ≤ s'.db.documents.length
    rw [documents, List.length_append]
    exact (inv.lidas_le userId).trans (Nat.le_add_right _ _)
  leu userId := by
    show ∀ d ∈ s'.db.documents.take (lidas userId),
      (∀ o ∈ s'.db.documents.take (lidas userId), o.publishedAt ≤ d.publishedAt) →
        (userId, d.version) ∈ s'.mostradas
    rw [documents, List.take_append_of_le_length (inv.lidas_le userId), mostradas]
    exact inv.leu userId
  gravados := by
    show ∀ a ∈ s'.db.acceptances, (a.userId, a.version) ∈ s'.mostradas
    rw [acceptances, mostradas]
    exact inv.gravados
  em_curso := by
    show ∀ a ∈ s'.aceites, (a.userId, a.version) ∈ s'.mostradas
    rw [aceites, mostradas]
    exact inv.em_curso

/-- What a version created is, and that it is not one of those there were. -/
theorem criar_some {db depois : Termos} {dto : PublicarTermosDto} {publicadoPor : Id}
    {version : String} {agora : Instant}
    (created : db.criar dto publicadoPor version agora = some depois) :
    ∃ novo : TermsDocument, novo.publishedAt = agora ∧
      depois = { db with documents := db.documents ++ [novo] } := by
  unfold Termos.criar at created
  split at created
  · cases created
  · exact ⟨_, rfl, (Option.some.inj created).symm⟩

theorem emDia_criar (inv : EmDia (s, lidas)) {i : Nat} {agora : Instant}
    (apart : LeuAVigente (s, lidas) (.criar i agora)) : EmDia (s.criar i agora, lidas) := by
  simp only [LeuAVigente] at apart
  revert apart
  unfold criar
  split
  · split
    · next db created =>
        intro apart
        obtain ⟨novo, rfl, rfl⟩ := criar_some created
        refine inv.documento (fun d mem same => ?_) rfl rfl rfl rfl
        have unchanged := congrArg (fun db => db.documents.length) (apart ⟨d, mem, same⟩)
        simp [mover] at unchanged
    · intro _
      split <;> exact inv.of_same rfl rfl rfl
  · exact fun _ => inv

/-- A page shown is of the version in force. -/
theorem emDia_atual (inv : EmDia (s, lidas)) (userId : Id) (sorte : Nat) :
    EmDia (comLeituras (s, lidas) (.atual userId sorte)) := by
  unfold comLeituras withHistory
  simp only [agir, atual, anotarLeitura]
  cases found : s.db.vigente sorte with
  | none => exact inv
  | some termos =>
      simp only [Option.isSome_some, if_true]
      obtain ⟨mem, last⟩ := maisRecente_some found
      refine ⟨inv.instantes, ?_, ?_, ?_, ?_⟩
      · intro other
        by_cases same : other = userId
        · simp [same]
        · simpa [same] using inv.lidas_le other
      · intro other d d_mem d_last
        by_cases same : other = userId
        · subst same
          simp only [Function.update_self, List.take_length] at d_mem d_last
          rw [maisRecente_unique inv.instantes d_mem mem d_last last]
          exact List.mem_append_right _ (List.mem_singleton_self _)
        · simp only [Function.update_of_ne same] at d_mem d_last
          exact List.mem_append_left _ (inv.leu other d d_mem d_last)
      · exact fun a a_mem => List.mem_append_left _ (inv.gravados a a_mem)
      · exact fun a a_mem => List.mem_append_left _ (inv.em_curso a a_mem)

/-- Who accepts the version that was in force when they read accepts what they read. -/
theorem emDia_aceitar (inv : EmDia (s, lidas)) {userId : Id} {contexto : ContextoDoAceite}
    {sorte : Nat} (read : LeuAVigente (s, lidas) (.aceitar userId contexto sorte)) :
    EmDia (s.lerVigente userId contexto sorte, lidas) := by
  unfold lerVigente
  cases found : s.db.vigente sorte with
  | none => exact inv
  | some termos =>
      refine ⟨inv.instantes, inv.lidas_le, inv.leu, inv.gravados, ?_⟩
      intro a mem
      rcases List.mem_append.mp mem with old | new
      · exact inv.em_curso a old
      · rw [List.mem_singleton.mp new]
        refine inv.leu userId termos (read termos found) fun o o_mem => ?_
        exact (maisRecente_some found).2 o (List.mem_of_mem_take o_mem)

theorem mem_gravarAceite {db : Termos} {userId : Id} {contexto : ContextoDoAceite}
    {version : String} {a : TermsAcceptance}
    (mem : a ∈ (db.gravarAceite userId contexto version).acceptances) :
    a ∈ db.acceptances ∨ a.userId = userId ∧ a.version = version := by
  unfold Termos.gravarAceite at mem
  split at mem
  · exact .inl mem
  · rcases List.mem_append.mp mem with old | new
    · exact .inl old
    · rw [List.mem_singleton.mp new]
      exact .inr ⟨rfl, rfl⟩

theorem gravarAceite_documents (db : Termos) (userId : Id) (contexto : ContextoDoAceite)
    (version : String) : (db.gravarAceite userId contexto version).documents = db.documents := by
  unfold Termos.gravarAceite
  split <;> rfl

theorem emDia_gravar (inv : EmDia (s, lidas)) (i : Nat) : EmDia (s.gravar i, lidas) := by
  unfold gravar
  split
  · next userId contexto version call =>
      have here : (userId, version) ∈ s.mostradas := inv.em_curso _ (List.mem_of_getElem? call)
      have documents := gravarAceite_documents s.db userId contexto version
      refine ⟨?_, ?_, ?_, ?_, ?_⟩
      · simpa only [documents] using inv.instantes
      · simpa only [documents] using inv.lidas_le
      · simpa only [documents] using inv.leu
      · intro a mem
        rcases mem_gravarAceite mem with old | ⟨same_user, same_version⟩
        · exact inv.gravados a old
        · rw [same_user, same_version]
          exact here
      · intro a mem
        rcases List.mem_or_eq_of_mem_set mem with old | rfl
        · exact inv.em_curso a old
        · exact here
  · exact inv

theorem emDia_agir (sh : Publicacoes × LidasAte) (acao : Acao) (inv : EmDia sh)
    (read : LeuAVigente sh acao) : EmDia (comLeituras sh acao) := by
  obtain ⟨s, lidas⟩ := sh
  cases acao with
  | publicar dto publicadoPor => exact inv.of_same rfl rfl rfl
  | contar i dia =>
      show EmDia (s.contar i dia, lidas)
      unfold contar
      split
      · exact inv.of_same rfl rfl rfl
      · exact inv
  | criar i agora => exact emDia_criar inv read
  | atual userId sorte => exact emDia_atual inv userId sorte
  | aceitar userId contexto sorte => exact emDia_aceitar inv read
  | gravar i => exact emDia_gravar inv i

end Passos

/-! ### Runs -/

/-- No version, no acceptance and no call. -/
def vazia : Publicacoes := ⟨⟨[], []⟩, [], [], []⟩

/-- Over every run in which each person accepts a version that was there when they were last shown
one, and no two versions have the same instant: what they accept is what they were shown, and who is
up to date was shown the required version or a later one. -/
theorem aceitouOQueViu_run (acoes : List Acao)
    (read : EachStep comLeituras LeuAVigente (vazia, fun _ => 0) acoes) :
    Always agir AceitouOQueViu vazia acoes := by
  have start : EmDia (vazia, fun _ => 0) := by
    refine ⟨List.nodup_nil, fun _ => Nat.zero_le _, ?_, ?_, ?_⟩
    · exact fun _ _ absent => absurd absent List.not_mem_nil
    · exact fun _ absent => absurd absent List.not_mem_nil
    · exact fun _ absent => absurd absent List.not_mem_nil
  have kept : Always comLeituras EmDia (vazia, fun _ => 0) acoes :=
    always_of_eachStep emDia_agir start read
  have law := kept.mono fun _ inv => inv.aceitouOQueViu
  exact (always_withHistory (vazia, fun _ => 0)).mp law

/-! ### A publication between the page and the acceptance -/

/-- A text of the terms. -/
def texto : PublicarTermosDto := ⟨"Termos de Uso", [], true⟩

/-- The first version is published and shown to person 7. -/
def mostrada : List Acao :=
  [.publicar texto 1, .contar 0 "2026-09-24", .criar 0 100, .atual 7 0]

/-- Person 7 accepts it. -/
def aceita : List Acao := mostrada ++ [.aceitar 7 ⟨none, none⟩ 0, .gravar 0]

/-- A second version is published before person 7 accepts. -/
def trocada : List Acao :=
  mostrada ++ [.publicar texto 1, .contar 1 "2026-09-25", .criar 1 200, .aceitar 7 ⟨none, none⟩ 0,
    .gravar 0]

theorem leuAVigente_aceita : EachStep comLeituras LeuAVigente (vazia, fun _ => 0) aceita := by
  refine ⟨trivial, trivial, ?_, trivial, ?_, trivial, trivial⟩
  · rintro ⟨d, mem, _⟩
    exact absurd mem List.not_mem_nil
  · have there : ∀ termos ∈ (runFrom agir vazia mostrada).db.vigente 0,
        termos ∈ (runFrom agir vazia mostrada).db.documents.take 1 := by decide +kernel
    exact fun termos found => there termos found

/-- Person 7 accepts the version they were shown. -/
theorem aceitouOQueViu_run_aceita : Always agir AceitouOQueViu vazia aceita :=
  aceitouOQueViu_run aceita leuAVigente_aceita

/-- Person 7 accepts a version they were never shown. -/
theorem not_aceitouOQueViu_trocada : ¬ Always agir AceitouOQueViu vazia trocada := by
  intro always
  have law : AceitouOQueViu (runFrom agir vazia trocada) := always.last
  obtain ⟨a, mem, unseen⟩ : ∃ a ∈ (runFrom agir vazia trocada).db.acceptances,
      (a.userId, a.version) ∉ (runFrom agir vazia trocada).mostradas := by decide +kernel
  exact unseen (law.gravados a mem)

end Publicacoes

end IccvBackend
