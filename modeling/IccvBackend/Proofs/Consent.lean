/-
Module: IccvBackend.Proofs.Consent
Purpose: No sensitive data without consent, whichever way they are written.
Trusted boundary: none
Main exports: Pessoa.SemConsentimentoNada, Cadastros.PassoDeConsentimento, consentimento_run
-/
import IccvBackend.Proofs.RecordEdits
import IccvBackend.Terms.Service

namespace IccvBackend

open Lib

/-! ### The law -/

/-- Without consent, religion and both health fields are null. -/
def Pessoa.SemConsentimentoNada (p : Pessoa) : Prop :=
  p.sensitiveConsentAt = none → p.sensiveis = ⟨none, none, none⟩

/-- Nothing sensitive, and no consent. -/
def Pessoa.Apagado (p : Pessoa) : Prop :=
  p.sensitiveConsentAt = none ∧ p.sensiveis = ⟨none, none, none⟩

namespace Cadastros

/-- Nobody has sensitive data without consent. -/
def SemConsentimentoNada (s : Cadastros) : Prop := ∀ p ∈ s.painel.pessoas, p.SemConsentimentoNada

/-- Whose consent an operation decides, and how. -/
def decisao : Acao → Option (Id × Bool)
  | .update id data _ _ => data.sensitiveDataConsent.map fun pedido => (id, pedido)
  | .updateMe userId dto _ => dto.dados.sensitiveDataConsent.map fun pedido => (userId, pedido)
  | .aceitar userId _ consentimento _ _ => consentimento.join.map fun pedido => (userId, pedido)
  | _ => none

/-- A revocation that goes through clears everything, and consent given again keeps its date. -/
structure PassoDeConsentimento (bcrypt : Bcrypt) (s : Cadastros) (acao : Acao) : Prop where
  revoga : ∀ id, decisao acao = some (id, false) → (s.executar bcrypt acao).2 →
    ∀ p ∈ (s.agir bcrypt acao).painel.pessoas, p.id = id → p.Apagado
  mantem : ∀ id, decisao acao = some (id, true) →
    ∀ p ∈ s.painel.pessoas, p.id = id → ∀ quando, p.sensitiveConsentAt = some quando →
      ∀ p' ∈ (s.agir bcrypt acao).painel.pessoas, p'.id = id →
        p'.sensitiveConsentAt = some quando

end Cadastros

/-! ### The merge rule -/

section Regra

variable {data : UserDTO} {agora : Instant} {p : Pessoa}

theorem aplicarConsentimento_semNada (law : p.SemConsentimentoNada) :
    (aplicarConsentimento data agora p).SemConsentimentoNada := by
  unfold aplicarConsentimento
  dsimp only
  split
  · exact fun _ => rfl
  · exact fun absent => by cases absent
  · split
    · next given =>
        intro absent
        rw [show p.sensitiveConsentAt = none from absent] at given
        cases given
    · exact law

theorem aplicarConsentimento_revoga (asked : data.sensitiveDataConsent = some false) :
    (aplicarConsentimento data agora p).Apagado := by
  unfold aplicarConsentimento
  rw [asked]
  exact ⟨rfl, rfl⟩

theorem aplicarConsentimento_mantem {quando : Instant}
    (asked : data.sensitiveDataConsent = some true) (given : p.sensitiveConsentAt = some quando) :
    (aplicarConsentimento data agora p).sensitiveConsentAt = some quando := by
  unfold aplicarConsentimento
  simp [asked, given]

end Regra

/-! ### What each operation writes -/

/-- One person's columns after a decision: those of the person before, through the merge rule. -/
structure Decidiu (db depois : Painel) (id : Id) (data : UserDTO) (agora : Instant) : Prop where
  pessoas : ∀ p ∈ depois.pessoas,
    (p ∈ db.pessoas ∧ p.id ≠ id) ∨ ∃ old ∈ db.pessoas, old.id = id ∧ p.id = id ∧
      p.sensiveis = (aplicarConsentimento data agora old).sensiveis ∧
      p.sensitiveConsentAt = (aplicarConsentimento data agora old).sensitiveConsentAt
  keyed : Keyed Pessoa.id db.nextId db.pessoas → Keyed Pessoa.id depois.nextId depois.pessoas

section Operacoes

variable {db depois : Painel} {id userId requesterId : Id} {data resto : UserDTO} {agora : Instant}

/-- What `update` stores is the decision of the body that came. -/
theorem restrito_decisao {atual : Pessoa} {vinculos : Option (List VinculoDeIgreja)}
    (restrito : db.Restrito requesterId id data atual resto vinculos) :
    resto = data ∨ resto = { data with role := none, churchRoles := none } := by
  cases restrito with
  | semPainel => exact .inr rfl
  | doPainel => exact .inl rfl

theorem decidiu_gravarEdicao (vinculos : Option (List VinculoDeIgreja)) :
    Decidiu db (db.gravarEdicao id data vinculos agora) id data agora := by
  constructor
  · intro p mem
    rcases mem_gravarEdicao.mp mem with ⟨old, old_mem, rfl, rfl⟩ | kept
    · refine .inr ⟨old, old_mem, rfl, ?_, rfl, rfl⟩
      exact editarPessoa_id data agora old
    · exact .inl kept
  · intro keyed
    have pessoas : (db.gravarEdicao id data vinculos agora).pessoas =
        updateKey Pessoa.id id (db.trocarVinculos id vinculos).comPerfilEfetivo
          (updateKey Pessoa.id id (Painel.editarPessoa data agora) db.pessoas) := by
      cases vinculos <;> rfl
    rw [pessoas, (gravarEdicao_rest db id data vinculos agora).2.2]
    refine (keyed.map fun p => ?_).map fun p => ?_
    · split
      · exact editarPessoa_id data agora p
      · rfl
    · split <;> rfl

theorem decidiu_updateUser {peloPerfil : Bool}
    (ok : db.updateUser id data (some requesterId) peloPerfil agora = .ok depois) :
    ∃ resto : UserDTO, resto.sensitiveDataConsent = data.sensitiveDataConsent ∧
      Decidiu db depois id resto agora := by
  obtain ⟨atual, resto, vinculos, _, restrito, _, rfl⟩ := updateUser_ok ok
  refine ⟨resto, ?_, decidiu_gravarEdicao vinculos⟩
  rcases restrito_decisao restrito with rfl | rfl <;> rfl

/-- The end of `updateMe`: nobody changes and it is refused, or the edit is saved. -/
theorem decidiu_updateMe (compara : String → String → Bool) (dto : UpdateMeDto) :
    ((db.updateMe compara userId dto agora).1.pessoas = db.pessoas ∧
        (db.updateMe compara userId dto agora).1.nextId = db.nextId ∧
        (db.updateMe compara userId dto agora).2.isOk = false) ∨
      ∃ resto : UserDTO, resto.sensitiveDataConsent = dto.dados.sensitiveDataConsent ∧
        Decidiu db (db.updateMe compara userId dto agora).1 userId resto agora := by
  obtain ⟨erros, ⟨same, refused⟩ | ⟨dados, _, _, asked, saved⟩⟩ :=
    updateMe_ends db compara userId dto agora
  · left
    rw [same]
    exact ⟨rfl, rfl, refused⟩
  · obtain ⟨resto, kept, done⟩ := decidiu_updateUser saved
    exact .inr ⟨resto, kept.trans asked, done.pessoas, done.keyed⟩

/-- A record created has what the merge rule stores over nothing. -/
theorem createUser_pessoas {hash : String → String}
    (ok : db.createUser hash data agora = .ok depois) :
    ∃ nova : Pessoa, nova.id = db.nextId ∧ nova.SemConsentimentoNada ∧
      depois.pessoas = db.pessoas ++ [nova] ∧ depois.nextId = db.nextId + 1 := by
  simp only [Painel.createUser, bind_eq_ok_iff, pure_eq_ok_iff] at ok
  obtain ⟨_, _, _, _, _, _, _, _, _, _, _, _, rfl⟩ := ok
  exact ⟨_, (aplicarConsentimento_keeps _ _ _).1, aplicarConsentimento_semNada fun _ =>
    rfl, rfl, rfl⟩

/-- An acceptance without a decision leaves everybody, and one with it goes through the rule. -/
theorem decidiu_aceitar {termos aceitos : Termos} {contexto : ContextoDoAceite}
    {consentimento : Option (Option Bool)} {sorte : Nat}
    (ok : aceitar db termos userId contexto consentimento agora sorte = .ok (depois, aceitos)) :
    (depois = db ∧ consentimento = none) ∨
      ∃ resto : UserDTO, resto.sensitiveDataConsent = consentimento.join ∧
        Decidiu db depois userId resto agora := by
  unfold aceitar at ok
  simp only [bind_eq_ok_iff, failIf_eq_ok_iff, exists_const] at ok
  obtain ⟨_, ok⟩ := ok
  split at ok
  · obtain ⟨rfl, _⟩ := Prod.mk.inj (pure_eq_ok_iff.mp ok)
    exact .inl ⟨rfl, rfl⟩
  · next pedido =>
      simp only [bind_eq_ok_iff, pure_eq_ok_iff, Prod.mk.injEq] at ok
      obtain ⟨_, _, rfl, _⟩ := ok
      refine .inr ⟨{ UserDTO.vazio with sensitiveDataConsent := pedido }, rfl, ?_, ?_⟩
      · intro p mem
        rcases mem_updateKey.mp mem with ⟨old, old_mem, rfl, rfl⟩ | kept
        · exact .inr ⟨old, old_mem, rfl, (aplicarConsentimento_keeps _ _ _).1, rfl, rfl⟩
        · exact .inl kept
      · intro keyed
        refine keyed.map fun p => ?_
        split
        · exact (aplicarConsentimento_keeps _ _ _).1
        · rfl

end Operacoes

/-! ### Runs -/

namespace Cadastros

/-- The key of the people, and the law. -/
structure EmDia (s : Cadastros) : Prop where
  keyed : Keyed Pessoa.id s.painel.nextId s.painel.pessoas
  semNada : s.SemConsentimentoNada

theorem EmDia.decidiu {s : Cadastros} {depois : Cadastros} {id : Id} {data : UserDTO}
    {agora : Instant} (inv : s.EmDia) (done : Decidiu s.painel depois.painel id data agora) :
    depois.EmDia where
  keyed := done.keyed inv.keyed
  semNada p mem := by
    rcases done.pessoas p mem with ⟨kept, _⟩ | ⟨old, old_mem, _, _, sensiveis, consent⟩
    · exact inv.semNada p kept
    · intro absent
      rw [sensiveis]
      exact aplicarConsentimento_semNada (inv.semNada old old_mem) (consent.symm.trans absent)

/-- The two facts of a decision, of who went through the merge rule. -/
theorem EmDia.passo {s : Cadastros} {depois : Painel} {id : Id} {data : UserDTO} {agora : Instant}
    (inv : s.EmDia) (done : Decidiu s.painel depois id data agora) :
    (data.sensitiveDataConsent = some false → ∀ p ∈ depois.pessoas, p.id = id → p.Apagado) ∧
      (data.sensitiveDataConsent = some true → ∀ p ∈ s.painel.pessoas, p.id = id →
        ∀ quando, p.sensitiveConsentAt = some quando → ∀ p' ∈ depois.pessoas, p'.id = id →
          p'.sensitiveConsentAt = some quando) := by
  constructor
  · intro asked p mem named
    rcases done.pessoas p mem with ⟨_, other⟩ | ⟨old, _, _, _, sensiveis, consent⟩
    · exact absurd named other
    · have cleared : (aplicarConsentimento data agora old).Apagado :=
        aplicarConsentimento_revoga asked
      exact ⟨consent.trans cleared.1, sensiveis.trans cleared.2⟩
  · intro asked p mem named quando given p' mem' named'
    rcases done.pessoas p' mem' with ⟨_, other⟩ | ⟨old, old_mem, old_named, _, _, consent⟩
    · exact absurd named' other
    · obtain rfl := inv.keyed.eq_of_key_eq old_mem mem (old_named.trans named.symm)
      exact consent.trans (aplicarConsentimento_mantem asked given)

section Passos

variable {bcrypt : Bcrypt} {s : Cadastros}

/-- A step of one decision, which the merge rule applies when it goes through. -/
theorem EmDia.passoDeConsentimento {acao : Acao} {id : Id} {pedido : Option Bool} (inv : s.EmDia)
    (asked : decisao acao = pedido.map fun pedido => (id, pedido))
    (outcome : ((s.agir bcrypt acao).painel.pessoas = s.painel.pessoas ∧
        (s.agir bcrypt acao).painel.nextId = s.painel.nextId ∧
        ((s.executar bcrypt acao).2 → pedido = none)) ∨
      ∃ (data : UserDTO) (agora : Instant), data.sensitiveDataConsent = pedido ∧
        Decidiu s.painel (s.agir bcrypt acao).painel id data agora) :
    (s.agir bcrypt acao).EmDia ∧ PassoDeConsentimento bcrypt s acao := by
  -- who is named by the decision, and what it says
  have named : ∀ other decided, decisao acao = some (other, decided) →
      id = other ∧ pedido = some decided := by
    intro other decided is
    rw [asked] at is
    obtain ⟨_, rfl, same⟩ := Option.map_eq_some_iff.mp is
    obtain ⟨rfl, rfl⟩ := Prod.mk.inj same
    exact ⟨rfl, rfl⟩
  rcases outcome with ⟨people, next, through⟩ | ⟨data, agora, came, done⟩
  · refine ⟨⟨?_, ?_⟩, ?_, ?_⟩
    · rw [people, next]
      exact inv.keyed
    · intro p mem
      rw [people] at mem
      exact inv.semNada p mem
    · intro other is ok
      have absent := through ok
      rw [(named other false is).2] at absent
      cases absent
    · intro other _ p mem here quando given p' mem' here'
      rw [people] at mem'
      rw [inv.keyed.eq_of_key_eq mem' mem (here'.trans here.symm)]
      exact given
  · obtain ⟨revoga, mantem⟩ := inv.passo done
    refine ⟨inv.decidiu done, ?_, ?_⟩
    · intro other is _
      obtain ⟨rfl, rfl⟩ := named other false is
      exact revoga came
    · intro other is
      obtain ⟨rfl, rfl⟩ := named other true is
      exact mantem came

/-- A step that decides nothing and keeps the law. -/
theorem passoDeConsentimento_of_none {acao : Acao} (none_asked : decisao acao = none) :
    PassoDeConsentimento bcrypt s acao where
  revoga id is := by
    rw [none_asked] at is
    cases is
  mantem id is := by
    rw [none_asked] at is
    cases is

theorem emDia_agir (inv : s.EmDia) (acao : Acao) :
    (s.agir bcrypt acao).EmDia ∧ PassoDeConsentimento bcrypt s acao := by
  cases acao with
  | create data acceptedTerms contexto agora sorte =>
      refine ⟨?_, passoDeConsentimento_of_none rfl⟩
      unfold agir executar
      dsimp only
      split
      · next painel created =>
          obtain ⟨nova, named, semNada, people, next⟩ := createUser_pessoas created
          refine ⟨?_, fun p mem => ?_⟩
          · rw [people, next]
            exact inv.keyed.append_fresh named
          · rw [people] at mem
            rcases List.mem_append.mp mem with old | new
            · exact inv.semNada p old
            · rw [List.mem_singleton.mp new]
              exact semNada
      · exact inv
  | update id data requesterId agora =>
      refine inv.passoDeConsentimento rfl ?_
      unfold agir executar
      dsimp only
      split
      · next painel saved =>
          obtain ⟨resto, kept, done⟩ := decidiu_updateUser saved
          exact .inr ⟨resto, agora, kept, done⟩
      · exact .inl ⟨rfl, rfl, fun ok => by cases ok⟩
  | updateMe userId dto agora =>
      refine inv.passoDeConsentimento rfl ?_
      rcases @decidiu_updateMe s.painel userId agora bcrypt.compara dto with
        ⟨people, next, refused⟩ | ⟨resto, kept, done⟩
      · refine .inl ⟨people, next, fun ok => ?_⟩
        rw [show (s.executar bcrypt (.updateMe userId dto agora)).2 =
          (s.painel.updateMe bcrypt.compara userId dto agora).2.isOk from rfl, refused] at ok
        cases ok
      · exact .inr ⟨resto, agora, kept, done⟩
  | aceitar userId contexto consentimento agora sorte =>
      refine inv.passoDeConsentimento rfl ?_
      unfold agir executar
      dsimp only
      split
      · next painel termos accepted =>
          rcases decidiu_aceitar accepted with ⟨rfl, rfl⟩ | ⟨resto, kept, done⟩
          · exact .inl ⟨rfl, rfl, fun _ => rfl⟩
          · exact .inr ⟨resto, agora, kept, done⟩
      · exact .inl ⟨rfl, rfl, fun ok => by cases ok⟩
  | publicarTermos novo => exact ⟨⟨inv.keyed, inv.semNada⟩, passoDeConsentimento_of_none rfl⟩
  | administrar outro perfis =>
      refine ⟨⟨inv.keyed.map fun _ => rfl, fun p mem => ?_⟩, passoDeConsentimento_of_none rfl⟩
      obtain ⟨old, old_mem, rfl⟩ := List.mem_map.mp mem
      exact inv.semNada old old_mem

end Passos

/-- Over every run from a database with nobody in it: who has not consented has no religion and no
health data stored, a revocation clears all three, and consent given again keeps its date. -/
theorem consentimento_run (bcrypt : Bcrypt) (s : Cadastros) (ninguem : s.painel.pessoas = [])
    (acoes : List Acao) :
    Always (agir bcrypt) SemConsentimentoNada s acoes ∧
      EachStep (agir bcrypt) (PassoDeConsentimento bcrypt) s acoes := by
  have start : s.EmDia := by
    refine ⟨?_, ?_⟩
    · rw [ninguem]
      exact Keyed.nil
    · intro p mem
      rw [ninguem] at mem
      cases mem
  have step : ∀ s acao, EmDia s → EmDia (agir bcrypt s acao) := fun _ acao inv =>
    (emDia_agir inv acao).1
  have kept := always_of_step step start acoes
  exact ⟨kept.mono fun _ inv => inv.semNada,
    kept.eachStep fun _ acao inv => (emDia_agir inv acao).2⟩

/-! ### One record -/

namespace CadastroNovo

def vazio : Cadastros where
  painel :=
    { igrejas := []
      planos := []
      pessoas := []
      bloqueios := []
      churchRoles := []
      eventos := []
      eventTreasurers := []
      eventAdmins := []
      inscricoes := []
      esperas := []
      pagamentos := []
      errosDeSenhaAtual := fun _ => none
      nextId := 1 }
  termos := ⟨[], []⟩

/-- A record with a religion and no consent. -/
def semConsentir : UserDTO :=
  { UserDTO.vazio with
    email := some (some "a@b.c")
    cpf := some (some "1")
    fullName := some "Ana"
    religion := some (some "Evangélica") }

/-- The record is created, and its owner then consents and revokes with the terms. -/
def decididas : List Acao :=
  [.create semConsentir false ⟨none, none⟩ 10 0, .aceitar 1 ⟨none, none⟩ (some (some true)) 20 0,
    .aceitar 1 ⟨none, none⟩ (some (some false)) 30 0]

end CadastroNovo

theorem consentimento_run_novo :
    Always (agir ⟨id, fun _ _ => false⟩) SemConsentimentoNada CadastroNovo.vazio
        CadastroNovo.decididas ∧
      EachStep (agir ⟨id, fun _ _ => false⟩) (PassoDeConsentimento ⟨id, fun _ _ => false⟩)
        CadastroNovo.vazio CadastroNovo.decididas :=
  consentimento_run ⟨id, fun _ _ => false⟩ CadastroNovo.vazio rfl CadastroNovo.decididas

end Cadastros

end IccvBackend
