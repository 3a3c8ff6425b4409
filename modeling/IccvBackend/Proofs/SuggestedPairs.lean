/-
Module: IccvBackend.Proofs.SuggestedPairs
Purpose: The pairs suggested for reconciliation are a stable maximal matching of the entries.
Trusted boundary: none
Main exports: Conciliacao.Compativel, Conciliacao.Estavel, Conciliacao.sugerirPares_estavel
-/
import IccvBackend.Treasury.Conciliacao
import IccvBackend.Lib.Greedy

namespace IccvBackend.Conciliacao

open Lib

variable {banco manuais : List ParaConciliar} {tolerancia : ℚ} {b m : ParaConciliar}

/-- A bank entry and a manual entry that may be paired. -/
structure Compativel (tolerancia : ℚ) (b m : ParaConciliar) : Prop where
  type : b.type = m.type
  centavos : centavos b.amount = Conciliacao.centavos m.amount
  dias : (diasEntre b.date m.date : ℚ) ≤ tolerancia

/-- A stable maximal matching of compatible entries. -/
structure Estavel (banco manuais : List ParaConciliar) (tolerancia : ℚ)
    (pares : List Par) : Prop where
  /-- No entry appears twice. -/
  umaVez : (pares.flatMap fun p => [p.bancoId, p.manualId]).Nodup
  compativeis : ∀ p ∈ pares, ∃ b ∈ banco, ∃ m ∈ manuais,
    p = ⟨b.id, m.id⟩ ∧ Compativel tolerancia b m
  /-- Of two entries that may be paired, one is in a pair. -/
  maximal : ∀ b ∈ banco, ∀ m ∈ manuais, Compativel tolerancia b m →
    ∃ p ∈ pares, p.bancoId = b.id ∨ p.manualId = m.id
  /-- A compatible pair that was left out shares an entry with a pair of no greater score. -/
  estavel : ∀ b ∈ banco, ∀ m ∈ manuais, Compativel tolerancia b m → ⟨b.id, m.id⟩ ∉ pares →
    ∃ b' ∈ banco, ∃ m' ∈ manuais, ⟨b'.id, m'.id⟩ ∈ pares ∧ (b'.id = b.id ∨ m'.id = m.id) ∧
      nota b' m' ≤ nota b m

/-! ### The candidates -/

theorem candidato?_eq_some {c : Candidato} :
    candidato? tolerancia b m = some c ↔ Compativel tolerancia b m ∧
      c = ⟨b.id, m.id, nota b m⟩ := by
  unfold candidato?
  split
  case isTrue differ =>
      simp only [Bool.or_eq_true, decide_eq_true_eq] at differ
      constructor
      · intro none_some
        cases none_some
      · rintro ⟨compat, _⟩
        rcases differ with type | centavos
        · exact absurd compat.type type
        · exact absurd compat.centavos centavos
  case isFalse same =>
      simp only [Bool.or_eq_true, decide_eq_true_eq, not_or, not_not] at same
      split
      case isTrue far =>
          constructor
          · intro none_some
            cases none_some
          · rintro ⟨compat, _⟩
            exact absurd compat.dias (not_le.mpr far)
      case isFalse near =>
          constructor
          · intro made
            exact ⟨⟨same.1, same.2, not_lt.mp near⟩, (Option.some.inj made).symm⟩
          · rintro ⟨_, rfl⟩
            rfl

theorem mem_candidatos {c : Candidato} :
    c ∈ candidatos banco manuais tolerancia ↔
      ∃ b ∈ banco, ∃ m ∈ manuais, Compativel tolerancia b m ∧ c = ⟨b.id, m.id, nota b m⟩ := by
  simp only [candidatos, List.mem_flatMap, List.mem_filterMap, candidato?_eq_some]

/-! ### The loop -/

def Candidato.usa (c : Candidato) : List Id := [c.bancoId, c.manualId]

def Candidato.par (c : Candidato) : Par := ⟨c.bancoId, c.manualId⟩

/-- The candidates that become pairs, in their order. -/
def escolhidos (banco manuais : List ParaConciliar) (tolerancia : ℚ) : List Candidato :=
  greedy Candidato.usa
    ((candidatos banco manuais tolerancia).insertionSort fun x y => x.nota ≤ y.nota) []

theorem formarPares_eq (cs : List Candidato) {usados usados' : List Id}
    (same : ∀ id, id ∈ usados ↔ id ∈ usados') :
    formarPares cs usados = (greedy Candidato.usa cs usados').map Candidato.par := by
  induction cs generalizing usados usados' with
  | nil => rfl
  | cons c cs ih =>
      unfold formarPares greedy
      have clash : (decide (c.bancoId ∈ usados) || decide (c.manualId ∈ usados)) =
          c.usa.any fun id => id ∈ usados' := by
        simp [Candidato.usa, same]
      rw [clash]
      split
      · exact ih same
      · rw [List.map_cons]
        congr 1
        apply ih
        intro id
        simp [Candidato.usa, same, or_left_comm]

theorem sugerirPares_eq_escolhidos (banco manuais : List ParaConciliar) (tolerancia : ℚ) :
    sugerirPares banco manuais tolerancia =
      (escolhidos banco manuais tolerancia).map Candidato.par :=
  formarPares_eq _ fun _ => Iff.rfl

theorem mem_candidatos_of_escolhido {c : Candidato}
    (taken : c ∈ escolhidos banco manuais tolerancia) :
    c ∈ candidatos banco manuais tolerancia :=
  (List.mem_insertionSort _).mp (greedy_sublist.subset taken)

/-- A candidate becomes a pair, or shares an entry with one of no greater score that does. -/
theorem escolhido_or_blocked {c : Candidato} (mem : c ∈ candidatos banco manuais tolerancia) :
    c ∈ escolhidos banco manuais tolerancia ∨
      ∃ d ∈ escolhidos banco manuais tolerancia, d.nota ≤ c.nota ∧ ∃ id ∈ c.usa, id ∈ d.usa := by
  have : Std.Total fun x y : Candidato => x.nota ≤ y.nota := ⟨fun x y => le_total x.nota y.nota⟩
  have : IsTrans Candidato fun x y => x.nota ≤ y.nota := ⟨fun _ _ _ => le_trans⟩
  have order := List.pairwise_insertionSort (fun x y : Candidato => x.nota ≤ y.nota)
    (candidatos banco manuais tolerancia)
  have fate : c ∈ escolhidos banco manuais tolerancia ∨ (∃ id ∈ c.usa, id ∈ ([] : List Id)) ∨
      ∃ d ∈ escolhidos banco manuais tolerancia, d.nota ≤ c.nota ∧ ∃ id ∈ c.usa, id ∈ d.usa :=
    mem_greedy_or_blocked order ((List.mem_insertionSort _).mpr mem)
  rcases fate with taken | ⟨id, _, none_used⟩ | blocked
  · exact .inl taken
  · cases none_used
  · exact .inr blocked

/-! ### The matching -/

variable (ids : ((banco ++ manuais).map ParaConciliar.id).Nodup)
include ids

theorem bancoId_ne_manualId (b_mem : b ∈ banco) (m_mem : m ∈ manuais) : b.id ≠ m.id := by
  rw [List.map_append] at ids
  exact (List.nodup_append.mp ids).2.2 _ (List.mem_map_of_mem b_mem) _ (List.mem_map_of_mem m_mem)

theorem escolhidos_umaVez :
    ((escolhidos banco manuais tolerancia).flatMap Candidato.usa).Nodup := by
  rw [List.nodup_flatMap]
  constructor
  · intro c taken
    obtain ⟨b, b_mem, m, m_mem, _, rfl⟩ := mem_candidatos.mp (mem_candidatos_of_escolhido taken)
    have differ := bancoId_ne_manualId ids b_mem m_mem
    simpa [Candidato.usa] using differ
  · exact greedy_disjoint

/-- A shared entry is on the same side of both pairs. -/
theorem mesmoLado {b' m' : ParaConciliar} (b_mem : b ∈ banco) (m_mem : m ∈ manuais)
    (b'_mem : b' ∈ banco) (m'_mem : m' ∈ manuais)
    (shared : ∃ id ∈ [b.id, m.id], id ∈ [b'.id, m'.id]) : b'.id = b.id ∨ m'.id = m.id := by
  obtain ⟨id, here, there⟩ := shared
  simp only [List.mem_cons, List.not_mem_nil, or_false] at here there
  rcases here with rfl | rfl
  · rcases there with same | cross
    · exact .inl same.symm
    · exact absurd cross (bancoId_ne_manualId ids b_mem m'_mem)
  · rcases there with cross | same
    · exact absurd cross.symm (bancoId_ne_manualId ids b'_mem m_mem)
    · exact .inr same.symm

/-- `sugerirPares` makes a stable maximal matching. -/
theorem sugerirPares_estavel (tolerancia : ℚ) :
    Estavel banco manuais tolerancia (sugerirPares banco manuais tolerancia) := by
  have blocked : ∀ b ∈ banco, ∀ m ∈ manuais, Compativel tolerancia b m →
      ⟨b.id, m.id⟩ ∉ sugerirPares banco manuais tolerancia →
        ∃ b' ∈ banco, ∃ m' ∈ manuais, ⟨b'.id, m'.id⟩ ∈ sugerirPares banco manuais tolerancia ∧
          (b'.id = b.id ∨ m'.id = m.id) ∧ nota b' m' ≤ nota b m := by
    intro b b_mem m m_mem compat out
    rw [sugerirPares_eq_escolhidos] at out ⊢
    have mem := mem_candidatos.mpr ⟨b, b_mem, m, m_mem, compat, rfl⟩
    rcases escolhido_or_blocked mem with taken | ⟨d, taken, le, shared⟩
    · exact absurd (List.mem_map_of_mem taken) out
    · obtain ⟨b', b'_mem, m', m'_mem, _, rfl⟩ :=
        mem_candidatos.mp (mem_candidatos_of_escolhido taken)
      exact ⟨b', b'_mem, m', m'_mem, List.mem_map_of_mem taken,
        mesmoLado ids b_mem m_mem b'_mem m'_mem shared, le⟩
  constructor
  case umaVez =>
      rw [sugerirPares_eq_escolhidos, List.flatMap_map]
      exact escolhidos_umaVez ids
  case compativeis =>
      intro p mem
      rw [sugerirPares_eq_escolhidos] at mem
      obtain ⟨c, taken, rfl⟩ := List.mem_map.mp mem
      obtain ⟨b, b_mem, m, m_mem, compat, rfl⟩ :=
        mem_candidatos.mp (mem_candidatos_of_escolhido taken)
      exact ⟨b, b_mem, m, m_mem, rfl, compat⟩
  case maximal =>
      intro b b_mem m m_mem compat
      by_cases taken : ⟨b.id, m.id⟩ ∈ sugerirPares banco manuais tolerancia
      · exact ⟨_, taken, .inl rfl⟩
      · obtain ⟨b', _, m', _, mem, shared, _⟩ := blocked b b_mem m m_mem compat taken
        exact ⟨_, mem, shared⟩
  case estavel => exact blocked

omit ids

/-- Two tithes of one week: the nearer day wins. -/
theorem sugerirPares_estavel_two :
    Estavel [⟨1, .income, 100, 10, none⟩, ⟨2, .income, 100, 12, none⟩]
      [⟨3, .income, 100, 12, none⟩] 3
      (sugerirPares [⟨1, .income, 100, 10, none⟩, ⟨2, .income, 100, 12, none⟩]
        [⟨3, .income, 100, 12, none⟩] 3) :=
  sugerirPares_estavel (by decide) 3

end IccvBackend.Conciliacao
