/-
Module: IccvBackend.Proofs.SpreadsheetSums
Purpose: What the tithes of a spreadsheet add up to, key by key, with the rounding of each step.
Trusted boundary: none
Main exports: somaDaChave, Juntou, juntou_foldl
-/
import IccvBackend.Treasury.Planilha

namespace IccvBackend

open Lib

/-! ### Amounts in cents -/

/-- The cents of an amount. -/
def centavosDe (amount : ℚ) : Nat := (cents amount).toNat

/-- A double of some cents. -/
def EmCentavos (amount : ℚ) : Prop := amount = Binary64.fl ((centavosDe amount : ℚ) / 100)

/-- Below it the rounding of every step is exact. -/
def limiteExato : Nat := 2 ^ 49

theorem centavosDe_fl {n : Nat} (small : n < limiteExato) :
    centavosDe (Binary64.fl ((n : ℚ) / 100)) = n := by
  rw [centavosDe, cents_fl small, Int.toNat_natCast]

theorem emCentavos_fl {n : Nat} (small : n < limiteExato) :
    EmCentavos (Binary64.fl ((n : ℚ) / 100)) := by
  rw [EmCentavos, centavosDe_fl small]

theorem addHundredths_emCentavos {a b : ℚ} (of_a : EmCentavos a) (of_b : EmCentavos b)
    (small : centavosDe a + centavosDe b < limiteExato) :
    Binary64.addHundredths a b = Binary64.fl (((centavosDe a + centavosDe b : Nat) : ℚ) / 100) := by
  have sum := Binary64.addHundredths_fl small
  rwa [← of_a, ← of_b] at sum

/-! ### One key -/

/-- The cents of the tithes of a key. -/
def somaDaChave (ds : List Dizimo) (chave : String) : Nat :=
  ((ds.filter fun d => d.chave = chave).map fun d => centavosDe d.amount).sum

theorem somaDaChave_append (ds es : List Dizimo) (chave : String) :
    somaDaChave (ds ++ es) chave = somaDaChave ds chave + somaDaChave es chave := by
  unfold somaDaChave
  rw [List.filter_append, List.map_append, List.sum_append]

theorem somaDaChave_singleton (d : Dizimo) (chave : String) :
    somaDaChave [d] chave = if d.chave = chave then centavosDe d.amount else 0 := by
  unfold somaDaChave
  by_cases same : d.chave = chave
  · simp [same]
  · simp [same]

/-- What the tithes of each key are joined into: one, with the columns of the first and the sum of
the cents. -/
structure Juntou (ds porChave : List Dizimo) : Prop where
  chaves : (porChave.map Dizimo.chave).Nodup
  soma : ∀ d ∈ porChave, d.amount = Binary64.fl ((somaDaChave ds d.chave : ℚ) / 100)
  colunas : ∀ d ∈ porChave, ∃ e ∈ ds, e.chave = d.chave ∧ e.date = d.date ∧ e.userId = d.userId
  todas : ∀ e ∈ ds, ∃ d ∈ porChave, d.chave = e.chave

theorem juntou_nil : Juntou [] [] where
  chaves := List.nodup_nil
  soma := fun _ mem => by cases mem
  colunas := fun _ mem => by cases mem
  todas := fun _ mem => by cases mem

theorem map_chave_juntar (porChave : List Dizimo) (novo : Dizimo) :
    (juntarDizimo porChave novo).map Dizimo.chave =
      if porChave.any fun d => d.chave = novo.chave then porChave.map Dizimo.chave
      else porChave.map Dizimo.chave ++ [novo.chave] := by
  unfold juntarDizimo
  split
  · rw [List.map_map]
    apply List.map_congr_left
    intro d _
    by_cases same : d.chave = novo.chave <;> simp [same]
  · simp

section Juntar

variable {ds porChave : List Dizimo} {novo : Dizimo}

theorem juntarDizimo_of_known (known : (porChave.any fun d => d.chave = novo.chave) = true) :
    juntarDizimo porChave novo = porChave.map fun d =>
      if d.chave = novo.chave then
        { d with amount := Binary64.addHundredths d.amount novo.amount }
      else d := by
  unfold juntarDizimo
  rw [if_pos known]

theorem juntarDizimo_of_fresh (fresh : (porChave.any fun d => d.chave = novo.chave) ≠ true) :
    juntarDizimo porChave novo = porChave ++ [novo] := by
  unfold juntarDizimo
  rw [if_neg fresh]

theorem somaDaChave_novo : somaDaChave (ds ++ [novo]) novo.chave =
    somaDaChave ds novo.chave + centavosDe novo.amount := by
  rw [somaDaChave_append, somaDaChave_singleton, if_pos rfl]

theorem somaDaChave_outra {chave : String} (apart : novo.chave ≠ chave) :
    somaDaChave (ds ++ [novo]) chave = somaDaChave ds chave := by
  rw [somaDaChave_append, somaDaChave_singleton, if_neg apart, Nat.add_zero]

/-- The sum of a key that is known grows by the cents of the new tithe. -/
theorem Juntou.amount_known (juntou : Juntou ds porChave) (emCentavos : EmCentavos novo.amount)
    (cabe : somaDaChave (ds ++ [novo]) novo.chave < limiteExato) {old : Dizimo}
    (mem : old ∈ porChave) (same : old.chave = novo.chave) :
    Binary64.addHundredths old.amount novo.amount =
      Binary64.fl ((somaDaChave (ds ++ [novo]) novo.chave : ℚ) / 100) := by
  rw [somaDaChave_novo] at cabe
  have amount := juntou.soma old mem
  rw [same] at amount
  have small : somaDaChave ds novo.chave < limiteExato := by omega
  have cents_old : centavosDe old.amount = somaDaChave ds novo.chave := by
    rw [amount, centavosDe_fl small]
  have of_old : EmCentavos old.amount := by
    rw [amount]
    exact emCentavos_fl small
  rw [addHundredths_emCentavos of_old emCentavos (by omega), cents_old, somaDaChave_novo]

/-- A tithe of a key that is known. -/
theorem Juntou.juntar_known (juntou : Juntou ds porChave) (emCentavos : EmCentavos novo.amount)
    (cabe : somaDaChave (ds ++ [novo]) novo.chave < limiteExato)
    (known : (porChave.any fun d => d.chave = novo.chave) = true) :
    Juntou (ds ++ [novo]) (juntarDizimo porChave novo) := by
  have keys := map_chave_juntar porChave novo
  rw [if_pos known] at keys
  have joined := juntarDizimo_of_known known
  constructor
  case chaves => rw [keys]; exact juntou.chaves
  case soma =>
    rw [joined]
    intro d mem
    obtain ⟨old, old_mem, rfl⟩ := List.mem_map.mp mem
    by_cases same : old.chave = novo.chave
    · rw [if_pos same]
      change Binary64.addHundredths old.amount novo.amount =
        Binary64.fl ((somaDaChave (ds ++ [novo]) old.chave : ℚ) / 100)
      rw [juntou.amount_known emCentavos cabe old_mem same, same]
    · rw [if_neg same, somaDaChave_outra (Ne.symm same)]
      exact juntou.soma old old_mem
  case colunas =>
    rw [joined]
    intro d mem
    obtain ⟨old, old_mem, rfl⟩ := List.mem_map.mp mem
    obtain ⟨e, e_mem, columns⟩ := juntou.colunas old old_mem
    refine ⟨e, List.mem_append_left _ e_mem, ?_⟩
    by_cases same : old.chave = novo.chave
    · rwa [if_pos same]
    · rwa [if_neg same]
  case todas =>
    intro e mem
    have named : e.chave ∈ porChave.map Dizimo.chave := by
      rcases List.mem_append.mp mem with before | last
      · obtain ⟨d, d_mem, same⟩ := juntou.todas e before
        exact List.mem_map.mpr ⟨d, d_mem, same⟩
      · rw [List.mem_singleton.mp last]
        obtain ⟨d, d_mem, same⟩ := List.any_eq_true.mp known
        exact List.mem_map.mpr ⟨d, d_mem, of_decide_eq_true same⟩
    rw [← keys] at named
    exact List.mem_map.mp named

/-- A tithe of a new key. -/
theorem Juntou.juntar_fresh (juntou : Juntou ds porChave) (emCentavos : EmCentavos novo.amount)
    (unknown : (porChave.any fun d => d.chave = novo.chave) ≠ true) :
    Juntou (ds ++ [novo]) (juntarDizimo porChave novo) := by
  have fresh : ∀ d ∈ porChave, d.chave ≠ novo.chave := by
    intro d mem same
    exact unknown (List.any_eq_true.mpr ⟨d, mem, decide_eq_true same⟩)
  have empty : somaDaChave ds novo.chave = 0 := by
    unfold somaDaChave
    rw [List.filter_eq_nil_iff.mpr]
    · rfl
    · intro e mem same
      obtain ⟨d, d_mem, d_same⟩ := juntou.todas e mem
      exact fresh d d_mem (d_same.trans (of_decide_eq_true same))
  rw [juntarDizimo_of_fresh unknown]
  constructor
  case chaves =>
    rw [List.map_append, List.nodup_append]
    refine ⟨juntou.chaves, List.nodup_singleton _, ?_⟩
    rintro chave mem other other_mem rfl
    obtain ⟨d, d_mem, same⟩ := List.mem_map.mp mem
    exact fresh d d_mem (same.trans (List.mem_singleton.mp other_mem))
  case soma =>
    intro d mem
    rcases List.mem_append.mp mem with before | last
    · rw [somaDaChave_outra (Ne.symm (fresh d before))]
      exact juntou.soma d before
    · rw [List.mem_singleton.mp last, somaDaChave_novo, empty, Nat.zero_add]
      exact emCentavos
  case colunas =>
    intro d mem
    rcases List.mem_append.mp mem with before | last
    · obtain ⟨e, e_mem, columns⟩ := juntou.colunas d before
      exact ⟨e, List.mem_append_left _ e_mem, columns⟩
    · rw [List.mem_singleton.mp last]
      exact ⟨novo, List.mem_append_right _ (List.mem_singleton_self _), rfl, rfl, rfl⟩
  case todas =>
    intro e mem
    rcases List.mem_append.mp mem with before | last
    · obtain ⟨d, d_mem, same⟩ := juntou.todas e before
      exact ⟨d, List.mem_append_left _ d_mem, same⟩
    · exact ⟨novo, List.mem_append_right _ (List.mem_singleton_self _),
        congrArg Dizimo.chave (List.mem_singleton.mp last).symm⟩

/-- One more tithe. -/
theorem Juntou.juntar (juntou : Juntou ds porChave) (emCentavos : EmCentavos novo.amount)
    (cabe : somaDaChave (ds ++ [novo]) novo.chave < limiteExato) :
    Juntou (ds ++ [novo]) (juntarDizimo porChave novo) := by
  by_cases known : (porChave.any fun d => d.chave = novo.chave) = true
  · exact juntou.juntar_known emCentavos cabe known
  · exact juntou.juntar_fresh emCentavos known

end Juntar

/-- The tithes of a whole spreadsheet, joined one by one. -/
theorem juntou_foldl {ds : List Dizimo} (emCentavos : ∀ d ∈ ds, EmCentavos d.amount)
    (cabem : ∀ chave, somaDaChave ds chave < limiteExato) :
    Juntou ds (ds.foldl juntarDizimo []) := by
  induction ds using List.reverseRecOn with
  | nil => exact juntou_nil
  | append_singleton ds novo ih =>
      rw [List.foldl_append, List.foldl_cons, List.foldl_nil]
      apply Juntou.juntar
      · apply ih
        · exact fun d mem => emCentavos d (List.mem_append_left _ mem)
        · intro chave
          have whole := cabem chave
          rw [somaDaChave_append] at whole
          omega
      · exact emCentavos novo (List.mem_append_right _ (List.mem_singleton_self _))
      · exact cabem novo.chave

end IccvBackend
