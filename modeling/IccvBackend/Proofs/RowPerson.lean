/-
Module: IccvBackend.Proofs.RowPerson
Purpose: The person chosen for a row of the spreadsheet: never a member of another church, the same
  for any order of the candidates, and exact only when no other eligible candidate has the same
  words.
Trusted boundary: none
Main exports: Planilha.Elegivel, Planilha.MesmasPalavras, Planilha.EscolhaSegura,
  Planilha.escolher_segura
-/
import IccvBackend.Treasury.Nomes
import Mathlib.Data.List.Perm.Lattice

namespace IccvBackend.Planilha

open Lib

variable {unicode : Unicode} {nome : String} {candidatos candidatos' : List Candidato}
  {churchId : Id} {c d : Candidato}

/-- A candidate who is a member of this church, or of none. -/
def Elegivel (churchId : Id) (c : Candidato) : Prop :=
  c.memberChurchId = none ∨ c.memberChurchId = some churchId

/-- A candidate with exactly the identifying words of the row. -/
def MesmasPalavras (unicode : Unicode) (nome : String) (c : Candidato) : Prop :=
  palavrasDoNome unicode c.fullName = palavrasDoNome unicode nome

/-! ### The stages, read as properties -/

theorem mem_podem : c ∈ podem candidatos churchId ↔ c ∈ candidatos ∧ Elegivel churchId c := by
  simp [podem, Elegivel]

/-- A word has at least two letters, and no blank. -/
theorem palavra_valida {p : List Char} (mem : p ∈ palavrasDoNome unicode nome) :
    p ≠ [] ∧ ' ' ∉ p := by
  simp only [palavrasDoNome, List.mem_filter, List.mem_map, Bool.and_eq_true,
    decide_eq_true_eq] at mem
  obtain ⟨⟨_, _, rfl⟩, long, _⟩ := mem
  constructor
  · rintro empty
    rw [empty] at long
    cases long
  · intro blank
    have letter := (List.mem_filter.mp blank).2
    revert letter
    decide

/-- Words joined by blanks are told apart. -/
theorem juntas_inj {nome' : String}
    (same : juntas (palavrasDoNome unicode nome) = juntas (palavrasDoNome unicode nome')) :
    palavrasDoNome unicode nome = palavrasDoNome unicode nome' := by
  have back : ∀ texto : String, palavrasDoNome unicode texto ≠ [] →
      (juntas (palavrasDoNome unicode texto)).splitOn ' ' = palavrasDoNome unicode texto :=
    fun texto some_word => List.splitOn_intercalate ' ' (fun p mem =>
      (palavra_valida mem).2) some_word
  -- no word at all joins to the empty text, which is no word
  have empty : ∀ texto : String, juntas (palavrasDoNome unicode texto) = [] →
      palavrasDoNome unicode texto = [] := by
    intro texto none_joined
    by_contra some_word
    have split := back texto some_word
    rw [none_joined] at split
    have mem : [] ∈ palavrasDoNome unicode texto := by
      rw [← split]
      exact List.mem_singleton_self []
    exact (palavra_valida mem).1 rfl
  by_cases none_here : palavrasDoNome unicode nome = []
  · rw [none_here] at same ⊢
    exact (empty nome' same.symm).symm
  · by_cases none_there : palavrasDoNome unicode nome' = []
    · rw [none_there] at same ⊢
      exact empty nome same
    · rw [← back nome none_here, same, back nome' none_there]

theorem mem_iguais :
    c ∈ iguais unicode nome candidatos churchId ↔
      c ∈ candidatos ∧ Elegivel churchId c ∧ MesmasPalavras unicode nome c := by
  simp only [iguais, List.mem_filter, mem_podem, decide_eq_true_eq, and_assoc]
  constructor
  · rintro ⟨mem, eligible, same⟩
    exact ⟨mem, eligible, juntas_inj same⟩
  · rintro ⟨mem, eligible, same⟩
    exact ⟨mem, eligible, congrArg juntas same⟩

theorem mem_daqui :
    c ∈ daqui unicode nome candidatos churchId ↔
      c ∈ candidatos ∧ MesmasPalavras unicode nome c ∧ c.memberChurchId = some churchId := by
  simp only [daqui, List.mem_filter, mem_iguais, decide_eq_true_eq]
  constructor
  · rintro ⟨⟨mem, _, same⟩, member⟩
    exact ⟨mem, same, member⟩
  · rintro ⟨mem, same, member⟩
    exact ⟨⟨mem, .inr member, same⟩, member⟩

theorem elegivel_of_nota {n : Nota} (mem : n ∈ notas unicode nome candidatos churchId) :
    n.c ∈ candidatos ∧ Elegivel churchId n.c := by
  obtain ⟨c, may, rfl⟩ := List.mem_map.mp mem
  exact mem_podem.mp may

/-! ### One element -/

/-- Of lists with the same elements, one element is the same. -/
theorem head?_perm {α : Type*} {xs ys : List α} (perm : xs.Perm ys) (one : xs.length = 1) :
    xs.head? = ys.head? := by
  obtain ⟨a, rfl⟩ := List.length_eq_one_iff.mp one
  rw [List.singleton_perm.mp perm]

/-! ### The order of the candidates -/

variable (unicode nome churchId) in
theorem iguais_perm (perm : candidatos.Perm candidatos') :
    (iguais unicode nome candidatos churchId).Perm (iguais unicode nome candidatos' churchId) :=
  (perm.filter _).filter _

variable (unicode nome churchId) in
theorem notas_perm (perm : candidatos.Perm candidatos') :
    (notas unicode nome candidatos churchId).Perm (notas unicode nome candidatos' churchId) :=
  (perm.filter _).map _

theorem favoritos_nodup (distinct : candidatos.Nodup) :
    (favoritos unicode nome candidatos churchId).Nodup := by
  apply List.Nodup.filter
  apply List.Nodup.map _ (distinct.filter _)
  intro c d same
  exact congrArg Nota.c same

theorem escolher_perm (perm : candidatos.Perm candidatos') (distinct : candidatos.Nodup) :
    escolher unicode nome candidatos' churchId = escolher unicode nome candidatos churchId := by
  have same_iguais := iguais_perm unicode nome churchId perm
  have same_daqui : (daqui unicode nome candidatos churchId).Perm
      (daqui unicode nome candidatos' churchId) := same_iguais.filter _
  have same_notas := notas_perm unicode nome churchId perm
  have same_cabem : (cabem unicode nome candidatos churchId).Perm
      (cabem unicode nome candidatos' churchId) := same_notas.filter _
  have same_favoritos : (favoritos unicode nome candidatos churchId).Perm
      (favoritos unicode nome candidatos' churchId) := same_notas.filter _
  have none_iguais : iguais unicode nome candidatos' churchId ≠ [] ↔
      iguais unicode nome candidatos churchId ≠ [] := by
    rw [← List.length_pos_iff, ← List.length_pos_iff, same_iguais.length_eq]
  have none_cabem : cabem unicode nome candidatos' churchId ≠ [] ↔
      cabem unicode nome candidatos churchId ≠ [] := by
    rw [← List.length_pos_iff, ← List.length_pos_iff, same_cabem.length_eq]
  simp only [escolher, ← same_daqui.length_eq, ← same_iguais.length_eq, ← same_cabem.length_eq,
    none_iguais, none_cabem,
    ← clearMax_perm same_favoritos (favoritos_nodup distinct)]
  split
  case isTrue one => rw [head?_perm same_daqui one]
  case isFalse =>
      split
      case isTrue one => rw [head?_perm same_iguais one]
      case isFalse =>
          split
          case isTrue => rfl
          case isFalse =>
              split
              case isTrue one => rw [head?_perm same_cabem one]
              case isFalse => rfl

/-! ### Who is chosen -/

/-- Whoever is chosen is one of the candidates, and eligible. -/
theorem escolhido_elegivel {id : Id}
    (chosen : (escolher unicode nome candidatos churchId).escolhido = some id) :
    ∃ c ∈ candidatos, c.id = id ∧ Elegivel churchId c := by
  unfold escolher at chosen
  dsimp only at chosen
  split at chosen
  case isTrue one =>
      obtain ⟨c, only⟩ := List.length_eq_one_iff.mp one
      obtain ⟨mem, _, member⟩ := mem_daqui.mp (only ▸ List.mem_singleton_self c)
      simp only [only, List.head?_cons, Option.map_some, Option.some.injEq] at chosen
      exact ⟨c, mem, chosen, .inr member⟩
  case isFalse =>
      split at chosen
      case isTrue one =>
          obtain ⟨c, only⟩ := List.length_eq_one_iff.mp one
          obtain ⟨mem, eligible, _⟩ := mem_iguais.mp (only ▸ List.mem_singleton_self c)
          simp only [only, List.head?_cons, Option.map_some, Option.some.injEq] at chosen
          exact ⟨c, mem, chosen, eligible⟩
      case isFalse =>
          split at chosen
          case isTrue => cases chosen
          case isFalse =>
              split at chosen
              case isTrue one =>
                  obtain ⟨n, only⟩ := List.length_eq_one_iff.mp one
                  have mem : n ∈ cabem unicode nome candidatos churchId :=
                    only ▸ List.mem_singleton_self n
                  simp only [only, List.head?_cons, Option.map_some, Option.some.injEq] at chosen
                  obtain ⟨here, eligible⟩ := elegivel_of_nota (List.mem_filter.mp mem).1
                  exact ⟨n.c, here, chosen, eligible⟩
              case isFalse =>
                  split at chosen
                  case isTrue => cases chosen
                  case isFalse =>
                      obtain ⟨n, clear, same⟩ := Option.map_eq_some_iff.mp chosen
                      have mem := (List.mem_filter.mp (clearMax_mem clear)).1
                      obtain ⟨here, eligible⟩ := elegivel_of_nota mem
                      exact ⟨n.c, here, same, eligible⟩

/-- `exato`: the only member of this church with the words, or the only eligible candidate with
them. -/
theorem escolhido_exato (exact_ : (escolher unicode nome candidatos churchId).exato = true) :
    ∃ c ∈ candidatos, (escolher unicode nome candidatos churchId).escolhido = some c.id ∧
      MesmasPalavras unicode nome c ∧
      ((c.memberChurchId = some churchId ∧ ∀ d ∈ candidatos, MesmasPalavras unicode nome d →
          d.memberChurchId = some churchId → d = c) ∨
        (Elegivel churchId c ∧ ∀ d ∈ candidatos, MesmasPalavras unicode nome d →
          Elegivel churchId d → d = c)) := by
  unfold escolher at exact_ ⊢
  dsimp only at exact_ ⊢
  split at exact_
  case isTrue one =>
      obtain ⟨c, only⟩ := List.length_eq_one_iff.mp one
      obtain ⟨mem, same, member⟩ := mem_daqui.mp (only ▸ List.mem_singleton_self c)
      rw [if_pos one, only]
      refine ⟨c, mem, rfl, same, .inl ⟨member, fun d d_mem d_same d_member => ?_⟩⟩
      exact List.mem_singleton.mp (only ▸ mem_daqui.mpr ⟨d_mem, d_same, d_member⟩)
  case isFalse not_here =>
      split at exact_
      case isTrue one =>
          obtain ⟨c, only⟩ := List.length_eq_one_iff.mp one
          obtain ⟨mem, eligible, same⟩ := mem_iguais.mp (only ▸ List.mem_singleton_self c)
          rw [if_neg not_here, if_pos one, only]
          refine ⟨c, mem, rfl, same, .inr ⟨eligible, fun d d_mem d_same d_eligible => ?_⟩⟩
          exact List.mem_singleton.mp (only ▸ mem_iguais.mpr ⟨d_mem, d_eligible, d_same⟩)
      case isFalse =>
          split at exact_
          case isTrue => cases exact_
          case isFalse =>
              split at exact_
              case isTrue => cases exact_
              case isFalse =>
                  split at exact_
                  case isTrue => cases exact_
                  case isFalse => cases exact_

/-- Two eligible candidates with the words, and not one member of this church among those with them:
nobody is chosen. -/
theorem escolhido_homonimos (c_mem : c ∈ candidatos) (d_mem : d ∈ candidatos) (differ : c ≠ d)
    (c_eligible : Elegivel churchId c) (d_eligible : Elegivel churchId d)
    (c_same : MesmasPalavras unicode nome c) (d_same : MesmasPalavras unicode nome d)
    (apart : ¬ ∃! m, m ∈ candidatos ∧ MesmasPalavras unicode nome m ∧
      m.memberChurchId = some churchId) :
    escolher unicode nome candidatos churchId = ⟨none, false⟩ := by
  have c_in := mem_iguais.mpr ⟨c_mem, c_eligible, c_same⟩
  have d_in := mem_iguais.mpr ⟨d_mem, d_eligible, d_same⟩
  have not_one : (iguais unicode nome candidatos churchId).length ≠ 1 := by
    intro one
    obtain ⟨e, only⟩ := List.length_eq_one_iff.mp one
    rw [only] at c_in d_in
    exact differ ((List.mem_singleton.mp c_in).trans (List.mem_singleton.mp d_in).symm)
  have not_here : (daqui unicode nome candidatos churchId).length ≠ 1 := by
    intro one
    obtain ⟨m, only⟩ := List.length_eq_one_iff.mp one
    apply apart
    refine ⟨m, mem_daqui.mp (only ▸ List.mem_singleton_self m), fun e e_here => ?_⟩
    exact List.mem_singleton.mp (only ▸ mem_daqui.mpr e_here)
  unfold escolher
  dsimp only
  rw [if_neg not_here, if_neg not_one, if_pos (List.ne_nil_of_mem c_in)]

/-! ### The choice -/

/-- A choice that is safe and does not depend on the order of the candidates. -/
structure EscolhaSegura (unicode : Unicode) (nome : String) (candidatos : List Candidato)
    (churchId : Id) : Prop where
  /-- Who is chosen is a candidate, and no member of another church. -/
  elegivel : ∀ id, (escolher unicode nome candidatos churchId).escolhido = some id →
    (∃ c ∈ candidatos, c.id = id) ∧ ∀ c ∈ candidatos, c.id = id → Elegivel churchId c
  ordem : ∀ outra, candidatos.Perm outra →
    escolher unicode nome outra churchId = escolher unicode nome candidatos churchId
  exato : (escolher unicode nome candidatos churchId).exato = true →
    ∃ c ∈ candidatos, (escolher unicode nome candidatos churchId).escolhido = some c.id ∧
      MesmasPalavras unicode nome c ∧
      ((c.memberChurchId = some churchId ∧ ∀ d ∈ candidatos, MesmasPalavras unicode nome d →
          d.memberChurchId = some churchId → d = c) ∨
        (Elegivel churchId c ∧ ∀ d ∈ candidatos, MesmasPalavras unicode nome d →
          Elegivel churchId d → d = c))
  homonimos : ∀ c ∈ candidatos, ∀ d ∈ candidatos, c ≠ d → Elegivel churchId c →
    Elegivel churchId d → MesmasPalavras unicode nome c → MesmasPalavras unicode nome d →
    (¬ ∃! m, m ∈ candidatos ∧ MesmasPalavras unicode nome m ∧ m.memberChurchId = some churchId) →
      (escolher unicode nome candidatos churchId).escolhido = none

/-- `escolher` is safe for candidates with distinct ids. -/
theorem escolher_segura (unicode : Unicode) (nome : String) (churchId : Id)
    (ids : (candidatos.map Candidato.id).Nodup) :
    EscolhaSegura unicode nome candidatos churchId := by
  have distinct := List.Nodup.of_map _ ids
  constructor
  case elegivel =>
      intro id chosen
      obtain ⟨c, mem, same, eligible⟩ := escolhido_elegivel chosen
      refine ⟨⟨c, mem, same⟩, fun d d_mem d_same => ?_⟩
      rw [List.inj_on_of_nodup_map ids d_mem mem (d_same.trans same.symm)]
      exact eligible
  case ordem =>
      intro outra perm
      exact escolher_perm perm distinct
  case exato => exact escolhido_exato
  case homonimos =>
      intro c c_mem d d_mem differ c_eligible d_eligible c_same d_same apart
      rw [escolhido_homonimos c_mem d_mem differ c_eligible d_eligible c_same d_same apart]

/-- The tables for texts without accents. -/
def ascii : Unicode where
  nfd := id
  toLowerCase := List.map Char.toLower

/-- Two people of one name, one of them a member elsewhere: the other is taken, and `exato`. -/
def homonimos : List Candidato := [⟨1, "Ana Lima", none⟩, ⟨2, "ANA da Lima", some 9⟩]

theorem escolher_segura_homonimos : EscolhaSegura ascii "Ana Lima" homonimos 5 :=
  escolher_segura ascii "Ana Lima" 5 (by decide)

/-- `exato` does not mean that no other candidate has the words. -/
theorem not_exato_unico :
    (homonimos.map Candidato.id).Nodup ∧ (escolher ascii "Ana Lima" homonimos 5).exato = true ∧
      ¬ ∃ c ∈ homonimos, (escolher ascii "Ana Lima" homonimos 5).escolhido = some c.id ∧
        MesmasPalavras ascii "Ana Lima" c ∧
        ((c.memberChurchId = some 5 ∧ ∀ d ∈ homonimos, MesmasPalavras ascii "Ana Lima" d →
            d.memberChurchId = some 5 → d = c) ∨
          ∀ d ∈ homonimos, MesmasPalavras ascii "Ana Lima" d → d = c) := by
  have chosen : escolher ascii "Ana Lima" homonimos 5 = ⟨some 1, true⟩ := by decide +kernel
  have other : MesmasPalavras ascii "Ana Lima" ⟨2, "ANA da Lima", some 9⟩ := by
    unfold MesmasPalavras
    decide +kernel
  rw [chosen]
  refine ⟨by decide, rfl, ?_⟩
  rintro ⟨c, mem, same, _, only⟩
  rcases List.mem_cons.mp mem with rfl | last
  · rcases only with ⟨member, _⟩ | alone
    · cases member
    · cases alone _ (by simp [homonimos]) other
  · obtain rfl := List.mem_singleton.mp last
    cases same

end IccvBackend.Planilha
