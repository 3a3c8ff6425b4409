/-
Module: IccvBackend.Proofs.LogDiff
Purpose: When a line of the log about a batch compares each record with itself, whatever the order
  in which the rows come back, as the trail of money does.
Trusted boundary: none
Main exports: LogDiff.Lote, LogDiff.LinhaDoLote, LogDiff.SempreMostra, LogDiff.linhaDoLote_iff
-/
import IccvBackend.Logs.LogDiff

namespace IccvBackend.LogDiff

open Lib Dinheiro JsonValue

variable {ν : Type} {intl : Intl ν} {numerals : Numerals ν}
  {b a b' a' : Row ν} {bs as before after outra : List (Row ν)} {f : String}

/-! ### Texts -/

/-- Values with one text are the same. -/
theorem stringify_inj {v w : JsonValue ν} (v_ok : WellFormed v) (w_ok : WellFormed w)
    (same : stringify numerals v = stringify numerals w) : v = w := by
  have read := parse_stringify numerals v_ok
  rw [same, parse_stringify numerals w_ok] at read
  exact (Option.some.inj read).symm

/-- What is not hidden stays where some fields are left out. -/
theorem lookup_filter_of_shown {hidden : List String} {members : Row ν} (shown : f ∉ hidden) :
    (members.filter fun member => !hidden.contains member.1).lookup f = members.lookup f := by
  induction members with
  | nil => rfl
  | cons member members ih =>
      obtain ⟨name, value⟩ := member
      by_cases left_out : name ∈ hidden
      · have differ : (f == name) = false := by
          rw [beq_eq_false_iff_ne]
          rintro rfl
          exact shown left_out
        rw [List.filter_cons_of_neg (by simpa using left_out), ih, List.lookup_cons, differ]
      · rw [List.filter_cons_of_pos (by simpa using left_out), List.lookup_cons, List.lookup_cons,
          ih]

theorem wellFormed_filter {row : Row ν} (keep : String × JsonValue ν → Bool)
    (ok : WellFormed (.obj row)) : WellFormed (.obj (row.filter keep)) := by
  cases ok with
  | obj names all =>
      refine .obj (names.sublist (List.Sublist.map _ List.filter_sublist)) fun member mem => ?_
      exact all member (List.mem_filter.mp mem).1

/-- A row as it is compared, without its timestamps. -/
abbrev texto (numerals : Numerals ν) (row : Row ν) : Option (Primitivo ν) :=
  semCarimbos numerals (some (.obj row))

/-- Rows with one text have the same in every field that is shown. -/
theorem campo_of_texto (b_ok : WellFormed (.obj b)) (a_ok : WellFormed (.obj a))
    (same : texto numerals b = texto numerals a) (shown : f ∉ hiddenFields) :
    campo (some b) f = campo (some a) f := by
  have texts : stringify numerals (.obj (b.filter fun member => !hiddenFields.contains member.1)) =
      stringify numerals (.obj (a.filter fun member => !hiddenFields.contains member.1)) := by
    simpa [texto, semCarimbos, espalhado] using same
  have rows := JsonValue.obj.inj
    (stringify_inj (wellFormed_filter _ b_ok) (wellFormed_filter _ a_ok) texts)
  simp only [campo, Option.bind_some]
  rw [← lookup_filter_of_shown shown, rows, lookup_filter_of_shown shown]

theorem idDe_of_texto (b_ok : WellFormed (.obj b)) (a_ok : WellFormed (.obj a))
    (same : texto numerals b = texto numerals a) : idDe (.obj b) = idDe (.obj a) := by
  have ids : campo (some b) "id" = campo (some a) "id" :=
    campo_of_texto b_ok a_ok same (by decide)
  simp only [idDe, asObject, ids]

/-! ### Two rows -/

/-- A field that is shown differs between two rows. -/
def Difere (numerals : Numerals ν) (b a : Row ν) (f : String) : Prop :=
  f ∉ hiddenFields ∧ mesmoTexto numerals (campo (some b) f) (campo (some a) f) = false

theorem mem_camposDe {b a : Option (Row ν)}
    (differ : mesmoTexto numerals (campo b f) (campo a f) = false) : f ∈ camposDe b a := by
  rw [camposDe, List.mem_eraseDups, List.mem_append]
  by_contra nowhere
  rw [not_or] at nowhere
  have absent : ∀ row : Option (Row ν), f ∉ (row.getD []).map Prod.fst → campo row f = .null := by
    intro row missing
    cases row with
    | none => rfl
    | some row =>
        have none_there : row.lookup f = none := by
          rw [List.lookup_eq_none_iff]
          intro member mem
          rw [bne_iff_ne]
          rintro rfl
          exact missing (List.mem_map_of_mem mem)
        simp [campo, none_there]
  rw [absent b nowhere.1, absent a nowhere.2] at differ
  simp [mesmoTexto] at differ

theorem comparar_of_same {fields : List String}
    (same : ∀ f ∈ fields, ¬ Difere numerals b a f) :
    comparar intl numerals (some b) (some a) fields = .ok ([], []) := by
  induction fields with
  | nil => rfl
  | cons f fields ih =>
      have here : (hiddenFields.contains f ||
          mesmoTexto numerals (campo (some b) f) (campo (some a) f)) = true := by
        have not_here := same f List.mem_cons_self
        by_contra neither
        rw [Bool.not_eq_true, Bool.or_eq_false_iff] at neither
        exact not_here ⟨by simpa using neither.1, neither.2⟩
      rw [comparar]
      simp only [here, if_true]
      exact ih fun g mem => same g (List.mem_cons_of_mem f mem)

section Comparar

variable {b a : Option (Row ν)} {g : String} {fields : List String}
  {changes idChanges : List LogChange} {m : LogChange}

/-- One turn of the loop: the field is passed over, or its change goes in front of those of the
fields that follow, among the ids or among the rest. -/
theorem comparar_cons_cases
    (compared : comparar intl numerals b a (g :: fields) = .ok (changes, idChanges)) :
    ((g ∈ hiddenFields ∨ mesmoTexto numerals (campo b g) (campo a g) = true) ∧
        comparar intl numerals b a fields = .ok (changes, idChanges)) ∨
      ∃ m rest, m.field = g ∧ mesmoTexto numerals (campo b g) (campo a g) = false ∧
        comparar intl numerals b a fields = .ok rest ∧
        ((isIdField g = true ∧ changes = rest.1 ∧ idChanges = m :: rest.2) ∨
          (isIdField g = false ∧ formatValue intl numerals g (campo b g) .before = .ok m.before ∧
            formatValue intl numerals g (campo a g) .after = .ok m.after ∧
            changes = m :: rest.1 ∧ idChanges = rest.2)) := by
  rw [comparar] at compared
  dsimp only at compared
  split at compared
  case isTrue quiet => exact .inl ⟨by simpa using quiet, compared⟩
  case isFalse loud =>
      rw [Bool.not_eq_true, Bool.or_eq_false_iff] at loud
      split at compared
      case isTrue g_id =>
          obtain ⟨rest, compared_rest, last⟩ := bind_eq_ok_iff.mp compared
          have pair := pure_eq_ok_iff.mp last
          rw [Prod.mk.injEq] at pair
          exact .inr ⟨_, rest, rfl, loud.2, compared_rest, .inl ⟨g_id, pair.1.symm, pair.2.symm⟩⟩
      case isFalse g_plain =>
          obtain ⟨before, before_eq, compared⟩ := bind_eq_ok_iff.mp compared
          obtain ⟨after, after_eq, compared⟩ := bind_eq_ok_iff.mp compared
          obtain ⟨rest, compared_rest, last⟩ := bind_eq_ok_iff.mp compared
          have pair := pure_eq_ok_iff.mp last
          rw [Prod.mk.injEq] at pair
          rw [Bool.not_eq_true] at g_plain
          exact .inr ⟨_, rest, rfl, loud.2, compared_rest,
            .inr ⟨g_plain, before_eq, after_eq, pair.1.symm, pair.2.symm⟩⟩

/-- What differs is in one of the two lists. -/
theorem comparar_of_difere (shown : f ∉ hiddenFields)
    (differ : mesmoTexto numerals (campo b f) (campo a f) = false) (mem : f ∈ fields)
    (compared : comparar intl numerals b a fields = .ok (changes, idChanges)) :
    ∃ m ∈ if isIdField f then idChanges else changes, m.field = f := by
  induction fields generalizing changes idChanges with
  | nil => cases mem
  | cons g fields ih =>
      rcases comparar_cons_cases compared with
        ⟨quiet, later⟩ | ⟨m, rest, m_field, _, later, ⟨g_id, rfl, rfl⟩ | ⟨g_plain, _, _, rfl, rfl⟩⟩
      · rcases List.mem_cons.mp mem with rfl | f_mem
        · rw [differ] at quiet
          exact absurd quiet (by simpa using shown)
        · exact ih f_mem later
      · rcases List.mem_cons.mp mem with rfl | f_mem
        · rw [if_pos g_id]
          exact ⟨m, List.mem_cons_self, m_field⟩
        · obtain ⟨n, n_mem, n_field⟩ := ih f_mem later
          refine ⟨n, ?_, n_field⟩
          by_cases f_id : isIdField f
          · rw [if_pos f_id] at n_mem ⊢
            exact List.mem_cons_of_mem m n_mem
          · rw [if_neg f_id] at n_mem ⊢
            exact n_mem
      · rcases List.mem_cons.mp mem with rfl | f_mem
        · rw [g_plain]
          exact ⟨m, List.mem_cons_self, m_field⟩
        · obtain ⟨n, n_mem, n_field⟩ := ih f_mem later
          refine ⟨n, ?_, n_field⟩
          by_cases f_id : isIdField f
          · rw [if_pos f_id] at n_mem ⊢
            exact n_mem
          · rw [if_neg f_id] at n_mem ⊢
            exact List.mem_cons_of_mem m n_mem

/-- A change of a field that is no id tells the two values of the field, which differ. -/
theorem valores_of_comparar (plain : isIdField m.field = false)
    (compared : comparar intl numerals b a fields = .ok (changes, idChanges))
    (mem : m ∈ changes ∨ m ∈ idChanges) :
    mesmoTexto numerals (campo b m.field) (campo a m.field) = false ∧
      formatValue intl numerals m.field (campo b m.field) .before = .ok m.before ∧
      formatValue intl numerals m.field (campo a m.field) .after = .ok m.after := by
  induction fields generalizing changes idChanges with
  | nil =>
      cases compared
      rcases mem with mem | mem
      all_goals cases mem
  | cons g fields ih =>
      rcases comparar_cons_cases compared with
        ⟨_, later⟩ | ⟨n, rest, rfl, differ, later, ⟨g_id, rfl, rfl⟩ |
          ⟨_, before_eq, after_eq, rfl, rfl⟩⟩
      · exact ih later mem
      · rcases mem with mem | mem
        · exact ih later (.inl mem)
        · rcases List.mem_cons.mp mem with rfl | m_mem
          · rw [g_id] at plain
            cases plain
          · exact ih later (.inr m_mem)
      · rcases mem with mem | mem
        · rcases List.mem_cons.mp mem with rfl | m_mem
          · exact ⟨differ, before_eq, after_eq⟩
          · exact ih later (.inl m_mem)
        · exact ih later (.inr mem)

end Comparar

/-- The changes that are shown: all of those of one kind. -/
theorem mudancasDoPar_cases {b a : Option (Row ν)} {mudancas : List LogChange}
    (shown : mudancasDoPar intl numerals b a = .ok mudancas) :
    (b = none ∧ a = none ∧ mudancas = []) ∨
      ∃ changes idChanges, comparar intl numerals b a (camposDe b a) = .ok (changes, idChanges) ∧
        ((changes = [] ∧ mudancas = idChanges) ∨ mudancas = changes) := by
  rw [mudancasDoPar] at shown
  split at shown
  case isTrue neither =>
      rw [Bool.and_eq_true, Option.isNone_iff_eq_none, Option.isNone_iff_eq_none] at neither
      exact .inl ⟨neither.1, neither.2, (pure_eq_ok_iff.mp shown).symm⟩
  case isFalse =>
      obtain ⟨⟨changes, idChanges⟩, compared, last⟩ := bind_eq_ok_iff.mp shown
      have listed := pure_eq_ok_iff.mp last
      refine .inr ⟨changes, idChanges, compared, ?_⟩
      split at listed
      case isTrue only_ids =>
          rw [Bool.and_eq_true, List.isEmpty_iff] at only_ids
          exact .inl ⟨only_ids.1, listed.symm⟩
      case isFalse => exact .inr listed.symm

/-- Nothing is shown of two rows exactly when no field that is shown differs. -/
theorem mudancasDoPar_eq_nil_iff :
    mudancasDoPar intl numerals (some b) (some a) = .ok [] ↔ ∀ f, ¬ Difere numerals b a f := by
  constructor
  case mpr =>
      intro same
      simp [mudancasDoPar, comparar_of_same fun f _ => same f, Bind.bind, Except.bind]
  case mp =>
      intro nothing f differ
      rw [mudancasDoPar] at nothing
      simp only [Option.isNone_some, Bool.and_self, Bool.false_eq_true, if_false] at nothing
      obtain ⟨⟨changes, idChanges⟩, compared, last⟩ := bind_eq_ok_iff.mp nothing
      have some_change : changes ≠ [] ∨ idChanges ≠ [] := by
        obtain ⟨m, m_mem, _⟩ := comparar_of_difere differ.1 differ.2
            (mem_camposDe differ.2) compared
        split at m_mem
        · exact .inr (List.ne_nil_of_mem m_mem)
        · exact .inl (List.ne_nil_of_mem m_mem)
      have shown := pure_eq_ok_iff.mp last
      cases changes with
      | nil => exact some_change.elim (fun wrong =>
          wrong rfl) fun more => more (by simpa using shown)
      | cons change changes => simp at shown

theorem financeChanges_isSome_iff :
    (financeChanges numerals (some b) (some a)).isSome = true ↔ ∃ f, Difere numerals b a f := by
  have noise : financeNoise = hiddenFields := rfl
  unfold Difere
  rw [financeChanges]
  split
  case isTrue none_changed =>
      rw [List.isEmpty_iff, List.filter_eq_nil_iff] at none_changed
      simp only [Option.isSome_none, Bool.false_eq_true, false_iff, not_exists]
      intro f differ
      exact none_changed f (mem_camposDe differ.2) (by simpa [noise] using differ)
  case isFalse some_changed =>
      rw [List.isEmpty_iff] at some_changed
      obtain ⟨f, mem⟩ := List.exists_mem_of_ne_nil _ some_changed
      have differ := (List.mem_filter.mp mem).2
      simp only [Option.isSome_some, true_iff]
      exact ⟨f, by simpa [noise] using differ⟩

/-- Two records differ in their ids at least. -/
theorem difere_id (ids : idDe (.obj b) ≠ idDe (.obj a)) (b_id : (idDe (.obj b)).isSome)
    (a_id : (idDe (.obj a)).isSome) : Difere numerals b a "id" := by
  refine ⟨by decide, ?_⟩
  have plain : ∀ row : Row ν, (idDe (.obj row)).isSome → WellFormed (campo (some row) "id") := by
    intro row some_id
    rw [idDe] at some_id
    simp only [asObject] at some_id
    cases value : campo (some row) "id" with
    | null => exact .null
    | bool b => exact .bool b
    | num n => exact .num n
    | str s => exact .str s
    | arr items => rw [value] at some_id; cases some_id
    | obj members => rw [value] at some_id; cases some_id
  rw [mesmoTexto, decide_eq_false_iff_not]
  intro same
  apply ids
  have values := stringify_inj (plain b b_id) (plain a a_id) same
  simp only [idDe, asObject, values]

/-! ### A batch -/

/-- Two snapshots of the same records, in any orders: the rows are objects with their ids. -/
structure Lote (before after : List (Row ν)) : Prop where
  objetos : ∀ row, row ∈ before ∨ row ∈ after → WellFormed (.obj row)
  ids : ∀ row, row ∈ before ∨ row ∈ after → (idDe (.obj row)).isSome
  distintos : (before.map fun row => idDe (.obj row)).Nodup
  mesmos : (after.map fun row => idDe (.obj row)).Perm (before.map fun row => idDe (.obj row))

namespace Lote

theorem length_eq (lote : Lote before after) : before.length = after.length := by
  simpa using lote.mesmos.length_eq.symm

theorem perm (lote : Lote before after) (perm : outra.Perm after) : Lote before outra := by
  have inside : ∀ row, row ∈ before ∨ row ∈ outra → row ∈ before ∨ row ∈ after :=
    fun row => Or.imp_right perm.mem_iff.mp
  exact ⟨fun row mem => lote.objetos row (inside row mem), fun row mem =>
    lote.ids row (inside row mem), lote.distintos, (perm.map _).trans lote.mesmos⟩

/-- Without one record, what is left is of the same records. -/
theorem tail (lote : Lote (b :: bs) (a :: as)) (same : idDe (.obj b) = idDe (.obj a)) :
    Lote bs as := by
  have inside : ∀ row, row ∈ bs ∨ row ∈ as → row ∈ b :: bs ∨ row ∈ a :: as :=
    fun row => Or.imp (List.mem_cons_of_mem b) (List.mem_cons_of_mem a)
  refine ⟨fun row mem => lote.objetos row (inside row mem),
    fun row mem => lote.ids row (inside row mem), (List.nodup_cons.mp lote.distintos).2, ?_⟩
  have ids := lote.mesmos
  rw [List.map_cons, List.map_cons, same] at ids
  exact List.perm_cons _ |>.mp ids

theorem ids_nodup (lote : Lote before after) : (after.map fun row => idDe (.obj row)).Nodup :=
  lote.mesmos.nodup_iff.mpr lote.distintos

/-- The other rows are of other records. -/
theorem other (lote : Lote (b :: bs) (a :: as)) (same : idDe (.obj b) = idDe (.obj a))
    (mem : a' ∈ as) : idDe (.obj b) ≠ idDe (.obj a') := by
  rw [same]
  intro equal
  have fresh := (List.nodup_cons.mp lote.ids_nodup).1
  exact fresh (List.mem_map.mpr ⟨a', mem, equal.symm⟩)

/-- Rows of different records are not the same. -/
theorem texto_ne (lote : Lote before after) (b_mem : b ∈ before) (a_mem : a ∈ after)
    (ids : idDe (.obj b) ≠ idDe (.obj a)) : texto numerals b ≠ texto numerals a := fun same =>
  ids (idDe_of_texto (lote.objetos b (.inl b_mem)) (lote.objetos a (.inr a_mem)) same)

/-- Something is shown of rows of different records. -/
theorem mostra (lote : Lote before after) (b_mem : b ∈ before) (a_mem : a ∈ after)
    (ids : idDe (.obj b) ≠ idDe (.obj a)) :
    mudancasDoPar intl numerals (some b) (some a) ≠ .ok [] := fun nothing =>
  mudancasDoPar_eq_nil_iff.mp nothing "id"
    (difere_id ids (lote.ids b (.inl b_mem)) (lote.ids a (.inr a_mem)))

theorem nada_of_texto (lote : Lote before after) (b_mem : b ∈ before) (a_mem : a ∈ after)
    (same : texto numerals b = texto numerals a) :
    mudancasDoPar intl numerals (some b) (some a) = .ok [] := by
  rw [mudancasDoPar_eq_nil_iff]
  rintro f ⟨shown, differ⟩
  rw [campo_of_texto (lote.objetos b (.inl b_mem)) (lote.objetos a (.inr a_mem)) same
    shown] at differ
  simp [mesmoTexto] at differ

end Lote

/-! ### The pair that is compared -/

section Par

variable [DecidableEq ν]

/-- Rows as the array of a snapshot. -/
abbrev lista (rows : List (Row ν)) : JsonValue ν := .arr (rows.map .obj)

/-- The first two rows, place by place, that are not the same. -/
def primeiroPar (numerals : Numerals ν) : List (Row ν) → List (Row ν) → Option (Row ν × Row ν)
  | b :: bs, a :: as =>
      if texto numerals b ≠ texto numerals a then some (b, a) else primeiroPar numerals bs as
  | _, _ => none

theorem primeiroDiferente_cons (b a : JsonValue ν) (bs as : List (JsonValue ν)) :
    primeiroDiferente numerals (b :: bs) (a :: as) =
      if semCarimbos numerals (some b) ≠ semCarimbos numerals (some a) then some 0
      else (primeiroDiferente numerals bs as).map (· + 1) := by
  rw [primeiroDiferente, List.zipIdx_cons', List.findIdx?_cons, List.findIdx?_map]
  simp only [decide_eq_true_eq, List.getElem?_cons_zero]
  rfl

theorem primeiroDiferente_lista (numerals : Numerals ν)
    (same_length : before.length = after.length) :
    match primeiroDiferente numerals (before.map .obj) (after.map .obj) with
    | some i => ∃ b a, before[i]? = some b ∧ after[i]? = some a ∧
        primeiroPar numerals before after = some (b, a)
    | none => primeiroPar numerals before after = none := by
  induction before generalizing after with
  | nil => rfl
  | cons b bs ih =>
      cases after with
      | nil => cases same_length
      | cons a as =>
          have shorter : bs.length = as.length := by simpa using same_length
          have rest := ih shorter
          rw [List.map_cons, List.map_cons, primeiroDiferente_cons, primeiroPar]
          by_cases differ : texto numerals b ≠ texto numerals a
          · rw [if_pos differ, if_pos differ]
            exact ⟨b, a, rfl, rfl, rfl⟩
          · rw [if_neg differ, if_neg differ]
            cases found : primeiroDiferente numerals (bs.map .obj) (as.map .obj) with
            | none => simpa [found] using rest
            | some i => simpa [found] using rest

theorem parComparavel_lista (same_length : before.length = after.length) :
    parComparavel numerals (lista before) (lista after) =
      match primeiroPar numerals before after with
      | some (b, a) => (some b, some a)
      | none => (before.head?, after.head?) := by
  have found := primeiroDiferente_lista numerals same_length
  have row : ∀ (rows : List (Row ν)) (i : Nat),
      asObject (rows.map JsonValue.obj)[i]? = rows[i]? := by
    intro rows i
    rw [List.getElem?_map]
    cases rows[i]? with
    | none => rfl
    | some row => rfl
  simp only [parComparavel]
  cases at_ : primeiroDiferente numerals (before.map .obj) (after.map .obj) with
  | none =>
      rw [at_] at found
      simp only [Option.getD_none, row, found, List.head?_eq_getElem?]
  | some i =>
      rw [at_] at found
      obtain ⟨b, a, in_before, in_after, pair⟩ := found
      simp only [Option.getD_some, row, in_before, in_after, pair]

theorem buildChanges_of_primeiroPar (same_length : before.length = after.length)
    (first : primeiroPar numerals before after = some (b, a)) :
    buildChanges intl numerals (lista before) (lista after) =
      mudancasDoPar intl numerals (some b) (some a) := by
  rw [buildChanges, parComparavel_lista same_length, first]

theorem mem_of_primeiroPar (first : primeiroPar numerals before after = some (b, a)) :
    b ∈ before ∧ a ∈ after := by
  induction before generalizing after with
  | nil => cases first
  | cons b' bs ih =>
      cases after with
      | nil => cases first
      | cons a' as =>
          rw [primeiroPar] at first
          split at first
          case isTrue =>
              cases first
              exact ⟨List.mem_cons_self, List.mem_cons_self⟩
          case isFalse =>
              obtain ⟨in_bs, in_as⟩ := ih first
              exact ⟨List.mem_cons_of_mem b' in_bs, List.mem_cons_of_mem a' in_as⟩

/-! ### What is shown whatever the order -/

/-- Down to the first record that changed the rows stand in one order, and comparing one of them
with any row that comes later shows what the change of that record shows. -/
inductive SempreMostra (intl : Intl ν) (numerals : Numerals ν)
    (mostrado : Except Failure (List LogChange)) : List (Row ν) → List (Row ν) → Prop
  | mudou {b a : Row ν} {bs as : List (Row ν)} (mesmo : idDe (.obj b) = idDe (.obj a))
      (mudou : texto numerals b ≠ texto numerals a)
      (mostra : mudancasDoPar intl numerals (some b) (some a) = mostrado)
      (outras : ∀ a' ∈ as, mudancasDoPar intl numerals (some b) (some a') = mostrado) :
      SempreMostra intl numerals mostrado (b :: bs) (a :: as)
  | igual {b a : Row ν} {bs as : List (Row ν)} (igual : texto numerals b = texto numerals a)
      (outras : ∀ a' ∈ as, mudancasDoPar intl numerals (some b) (some a') = mostrado)
      (resto : SempreMostra intl numerals mostrado bs as) :
      SempreMostra intl numerals mostrado (b :: bs) (a :: as)

variable {mostrado : Except Failure (List LogChange)}

/-- In the order in which they came, the pair is the record that changed. -/
theorem SempreMostra.primeiroPar (sempre : SempreMostra intl numerals mostrado before after) :
    ∃ b a, LogDiff.primeiroPar numerals before after = some (b, a) ∧
      idDe (.obj b) = idDe (.obj a) ∧ mudancasDoPar intl numerals (some b) (some a) = mostrado := by
  induction sempre with
  | @mudou b a bs as mesmo mudou mostra _ =>
      exact ⟨b, a, if_pos mudou, mesmo, mostra⟩
  | @igual b a bs as igual _ _ ih =>
      obtain ⟨b', a', first, rest⟩ := ih
      refine ⟨b', a', ?_, rest⟩
      rw [LogDiff.primeiroPar, if_neg (by simp [igual]), first]

/-- In any order, what is shown is that. -/
theorem SempreMostra.em_ordem (lote : Lote before after)
    (sempre : SempreMostra intl numerals mostrado before after) (perm : outra.Perm after) :
    ∃ b a, LogDiff.primeiroPar numerals before outra = some (b, a) ∧
      mudancasDoPar intl numerals (some b) (some a) = mostrado := by
  -- the first row of that order is the record's own, or that of a later record
  have step : ∀ {b a : Row ν} {bs as outra : List (Row ν)}, Lote (b :: bs) (a :: as) →
      idDe (.obj b) = idDe (.obj a) → outra.Perm (a :: as) →
      (∀ a' ∈ as, mudancasDoPar intl numerals (some b) (some a') = mostrado) →
      (∃ resto, outra = a :: resto ∧ resto.Perm as) ∨
        ∃ a', LogDiff.primeiroPar numerals (b :: bs) outra = some (b, a') ∧
          mudancasDoPar intl numerals (some b) (some a') = mostrado := by
    intro b a bs as outra lote mesmo perm outras
    cases outra with
    | nil => cases perm.length_eq
    | cons a' resto =>
        by_cases own : a' = a
        · subst own
          exact .inl ⟨resto, rfl, List.perm_cons _ |>.mp perm⟩
        · have later : a' ∈ as :=
            (List.mem_cons.mp (perm.mem_iff.mp List.mem_cons_self)).resolve_left own
          refine .inr ⟨a', if_pos ?_, outras a' later⟩
          exact lote.texto_ne List.mem_cons_self (List.mem_cons_of_mem a later)
            (lote.other mesmo later)
  induction sempre generalizing outra with
  | @mudou b a bs as mesmo mudou mostra outras =>
      rcases step lote mesmo perm outras with ⟨resto, rfl, _⟩ | ⟨a', first, shown⟩
      · exact ⟨b, a, if_pos mudou, mostra⟩
      · exact ⟨b, a', first, shown⟩
  | @igual b a bs as igual outras _ ih =>
      have mesmo := idDe_of_texto (lote.objetos b (.inl List.mem_cons_self))
        (lote.objetos a (.inr List.mem_cons_self)) igual
      rcases step lote mesmo perm outras with ⟨resto, rfl, rest⟩ | ⟨a', first, shown⟩
      · obtain ⟨b', a', first, shown⟩ := ih (lote.tail mesmo) rest
        refine ⟨b', a', ?_, shown⟩
        rw [LogDiff.primeiroPar, if_neg (by simp [igual]), first]
      · exact ⟨b, a', first, shown⟩

omit [DecidableEq ν] in
theorem SempreMostra.ne_nil (lote : Lote before after) (two : 1 < before.length)
    (sempre : SempreMostra intl numerals mostrado before after) : mostrado ≠ .ok [] := by
  have later : ∀ {b a : Row ν} {bs as : List (Row ν)}, Lote (b :: bs) (a :: as) →
      1 < (b :: bs).length → idDe (.obj b) = idDe (.obj a) →
      (∀ a' ∈ as, mudancasDoPar intl numerals (some b) (some a') = mostrado) →
      mostrado ≠ .ok [] := by
    intro b a bs as lote two mesmo outras
    cases as with
    | nil =>
        rw [lote.length_eq] at two
        exact absurd two (by simp)
    | cons a' as =>
        rw [← outras a' List.mem_cons_self]
        exact lote.mostra List.mem_cons_self (List.mem_cons_of_mem a List.mem_cons_self)
          (lote.other mesmo List.mem_cons_self)
  cases sempre with
  | mudou mesmo _ _ outras => exact later lote two mesmo outras
  | igual igual outras _ =>
      exact later lote two (idDe_of_texto (lote.objetos _ (.inl List.mem_cons_self))
        (lote.objetos _ (.inr List.mem_cons_self)) igual) outras

/-- Where every order shows the same, and the pair is of one record, the rows are
interchangeable. -/
theorem sempreMostra_of_ordem (lote : Lote before after)
    (every : ∀ outra, outra.Perm after → ∃ b a, primeiroPar numerals before outra = some (b, a) ∧
      mudancasDoPar intl numerals (some b) (some a) = mostrado)
    (own : ∀ b a, primeiroPar numerals before after = some (b, a) → idDe (.obj b) = idDe (.obj a)) :
    SempreMostra intl numerals mostrado before after := by
  induction before generalizing after with
  | nil =>
      obtain ⟨_, _, absent, _⟩ := every after (.refl _)
      cases absent
  | cons b bs ih =>
      cases after with
      | nil => cases lote.length_eq
      | cons a as =>
          have outras : idDe (.obj b) = idDe (.obj a) → ∀ a' ∈ as,
              mudancasDoPar intl numerals (some b) (some a') = mostrado := by
            intro mesmo a' mem
            obtain ⟨antes, depois, rfl⟩ := List.append_of_mem mem
            -- the order in which that row comes first
            have moved : (a' :: a :: (antes ++ depois)).Perm (a :: (antes ++ a' :: depois)) :=
              (List.Perm.swap a a' _).trans (List.perm_middle.symm.cons a)
            obtain ⟨b₁, a₁, first, shown⟩ := every _ moved
            have differ : texto numerals b ≠ texto numerals a' :=
              lote.texto_ne List.mem_cons_self (List.mem_cons_of_mem a mem) (lote.other mesmo mem)
            rw [primeiroPar, if_pos differ] at first
            cases first
            exact shown
          by_cases mudou : texto numerals b ≠ texto numerals a
          · have first : primeiroPar numerals (b :: bs) (a :: as) = some (b, a) := if_pos mudou
            have mesmo := own b a first
            obtain ⟨b₁, a₁, first', shown⟩ := every (a :: as) (.refl _)
            rw [first] at first'
            cases first'
            exact .mudou mesmo mudou shown (outras mesmo)
          · have igual : texto numerals b = texto numerals a := not_not.mp mudou
            have mesmo := idDe_of_texto (lote.objetos b (.inl List.mem_cons_self))
              (lote.objetos a (.inr List.mem_cons_self)) igual
            have skip : ∀ resto, primeiroPar numerals (b :: bs) (a :: resto) =
                primeiroPar numerals bs resto := fun resto => if_neg mudou
            refine .igual igual (outras mesmo) (ih (lote.tail mesmo) ?_ ?_)
            · intro outra perm
              rw [← skip outra]
              exact every (a :: outra) (perm.cons a)
            · intro b' a' first
              exact own b' a' (by rw [skip, first])

/-! ### The pairs of the trail of money -/

theorem lookup_of_mem {rows : List (Primitivo ν × JsonValue ν)} {k : Primitivo ν} {v : JsonValue ν}
    (keys : (rows.map Prod.fst).Nodup) (mem : (k, v) ∈ rows) : rows.lookup k = some v := by
  induction rows with
  | nil => cases mem
  | cons row rows ih =>
      obtain ⟨fresh, rest⟩ := List.nodup_cons.mp keys
      rw [List.lookup_cons]
      rcases List.mem_cons.mp mem with rfl | later
      · simp
      · have differ : (k == row.1) = false := by
          rw [beq_eq_false_iff_ne]
          rintro rfl
          exact fresh (List.mem_map.mpr ⟨(row.1, v), later, rfl⟩)
        rw [differ]
        exact ih rest later

/-- The id of a row that has one. -/
def idCerto (row : Row ν) : Primitivo ν := (idDe (.obj row)).getD .null

omit [DecidableEq ν] in
theorem idCerto_eq_iff (b_id : (idDe (.obj b)).isSome) (a_id : (idDe (.obj a)).isSome) :
    idCerto b = idCerto a ↔ idDe (.obj b) = idDe (.obj a) := by
  obtain ⟨i, b_id⟩ := Option.isSome_iff_exists.mp b_id
  obtain ⟨j, a_id⟩ := Option.isSome_iff_exists.mp a_id
  simp [idCerto, b_id, a_id]

omit [DecidableEq ν] in
theorem comChave_map {rows : List (Row ν)} (ids : ∀ row ∈ rows, (idDe (.obj row)).isSome) :
    Dinheiro.comChave (rows.map .obj) = rows.map fun row => (idCerto row, .obj row) := by
  have keyed : ∀ linha ∈ (rows.map JsonValue.obj).zipIdx,
      (chaveDe linha.2 linha.1, linha.1) =
        (((idDe linha.1).getD .null, linha.1) : Primitivo ν × JsonValue ν) := by
    intro linha mem
    obtain ⟨row, row_mem, same⟩ := List.mem_map.mp (List.fst_mem_of_mem_zipIdx mem)
    obtain ⟨i, some_id⟩ := Option.isSome_iff_exists.mp (ids row row_mem)
    simp [chaveDe, ← same, some_id]
  rw [Dinheiro.comChave, List.map_congr_left keyed]
  have fst : (rows.map JsonValue.obj).zipIdx.map Prod.fst = rows.map .obj := by simp
  calc (rows.map JsonValue.obj).zipIdx.map (fun linha => ((idDe linha.1).getD .null, linha.1))
      = ((rows.map JsonValue.obj).zipIdx.map Prod.fst).map
          (fun row => ((idDe row).getD .null, row)) := by rw [List.map_map]; rfl
    _ = rows.map fun row => (idCerto row, .obj row) := by rw [fst, List.map_map]; rfl

theorem guardado_comChave {rows : List (Row ν)} {row : Row ν}
    (ids : ∀ row ∈ rows, (idDe (.obj row)).isSome)
    (distintos : (rows.map fun row => idDe (.obj row)).Nodup) (mem : row ∈ rows) :
    guardado (idCerto row) (Dinheiro.comChave (rows.map .obj)) = some (.obj row) := by
  have keys : (rows.map idCerto).Nodup := by
    rw [List.Nodup, List.pairwise_map] at distintos ⊢
    refine List.Pairwise.imp_of_mem ?_ distintos
    intro b a b_mem a_mem differ same
    exact differ ((idCerto_eq_iff (ids b b_mem) (ids a a_mem)).mp same)
  rw [guardado, comChave_map ids]
  apply lookup_of_mem
  · simpa [List.map_reverse, Function.comp_def] using keys
  · exact List.mem_reverse.mpr (List.mem_map_of_mem mem)

/-- The trail of money pairs each record with itself. -/
theorem mem_parearPorId_iff (lote : Lote before after)
    {par : Option (JsonValue ν) × Option (JsonValue ν)} :
    par ∈ Dinheiro.parearPorId (lista before) (lista after) ↔
      ∃ b ∈ before, ∃ a ∈ after, idDe (.obj b) = idDe (.obj a) ∧
        par = (some (.obj b), some (.obj a)) := by
  have antes := comChave_map fun row mem => lote.ids row (.inl mem)
  have depois := comChave_map fun row mem => lote.ids row (.inr mem)
  have pair : ∀ b ∈ before, ∀ a ∈ after, idDe (.obj b) = idDe (.obj a) →
      (guardado (idCerto b) (Dinheiro.comChave (before.map .obj)),
        guardado (idCerto b) (Dinheiro.comChave (after.map .obj))) =
          (some (JsonValue.obj b), some (JsonValue.obj a)) := by
    intro b b_mem a a_mem same
    have key := (idCerto_eq_iff (lote.ids b (.inl b_mem)) (lote.ids a (.inr a_mem))).mpr same
    rw [guardado_comChave (fun row mem => lote.ids row (.inl mem)) lote.distintos b_mem, key,
      guardado_comChave (fun row mem => lote.ids row (.inr mem)) lote.ids_nodup a_mem]
  have keys : ∀ chave, chave ∈ ((Dinheiro.comChave (before.map .obj)).map Prod.fst ++
      (Dinheiro.comChave (after.map .obj)).map Prod.fst).eraseDups ↔
        ∃ b ∈ before, idCerto b = chave := by
    intro chave
    rw [List.mem_eraseDups, antes, depois, List.map_map, List.map_map, List.mem_append]
    constructor
    · rintro (in_before | in_after)
      · simpa using in_before
      · obtain ⟨a, a_mem, rfl⟩ := List.mem_map.mp in_after
        have id_mem := lote.mesmos.mem_iff.mp (List.mem_map_of_mem a_mem)
        obtain ⟨b, b_mem, same⟩ := List.mem_map.mp id_mem
        exact ⟨b, b_mem,
          (idCerto_eq_iff (lote.ids b (.inl b_mem)) (lote.ids a (.inr a_mem))).mpr same⟩
    · rintro ⟨b, b_mem, rfl⟩
      exact .inl (List.mem_map.mpr ⟨b, b_mem, rfl⟩)
  simp only [Dinheiro.parearPorId, comoLista, List.mem_map, keys]
  constructor
  · rintro ⟨_, ⟨b, b_mem, rfl⟩, rfl⟩
    have id_mem := lote.mesmos.mem_iff.mpr (List.mem_map_of_mem b_mem)
    obtain ⟨a, a_mem, same⟩ := List.mem_map.mp id_mem
    exact ⟨b, b_mem, a, a_mem, same.symm, pair b b_mem a a_mem same.symm⟩
  · rintro ⟨b, b_mem, a, a_mem, same, rfl⟩
    exact ⟨_, ⟨b, b_mem, rfl⟩, pair b b_mem a a_mem same⟩

/-! ### The line of a batch -/

/-- A line about a batch shows what changed in one record of it, the same for every order of the
rows that come back; it is empty only when no record changed in what is shown; and it compares the
pairs that the trail of money does, and agrees with it on whether a record changed. -/
structure LinhaDoLote (intl : Intl ν) (numerals : Numerals ν) (before after : List (Row ν)) :
    Prop where
  umRegistro : before = [] ∨ ∃ b ∈ before, ∃ a ∈ after, idDe (.obj b) = idDe (.obj a) ∧
    buildChanges intl numerals (lista before) (lista after) =
      mudancasDoPar intl numerals (some b) (some a)
  ordem : ∀ outra, outra.Perm after → buildChanges intl numerals (lista before) (lista outra) =
    buildChanges intl numerals (lista before) (lista after)
  vazia : buildChanges intl numerals (lista before) (lista after) = .ok [] →
    ∀ b ∈ before, ∀ a ∈ after, idDe (.obj b) = idDe (.obj a) → ∀ f, f ∉ hiddenFields →
      mesmoTexto numerals (campo (some b) f) (campo (some a) f) = true
  mesmoPar : ∀ b a, parComparavel numerals (lista before) (lista after) = (some b, some a) →
    (some (.obj b), some (.obj a)) ∈ Dinheiro.parearPorId (lista before) (lista after)
  acordo : buildChanges intl numerals (lista before) (lista after) ≠ .ok [] ↔
    ∃ par ∈ Dinheiro.parearPorId (lista before) (lista after),
      (financeChanges numerals (asObject par.1) (asObject par.2)).isSome = true

/-- When the pair is of one record, it is a pair of the trail. -/
theorem linhaDoLote_of_par (lote : Lote before after) (b_mem : b ∈ before) (a_mem : a ∈ after)
    (mesmo : idDe (.obj b) = idDe (.obj a))
    (par : parComparavel numerals (lista before) (lista after) = (some b, some a))
    (ordem : ∀ outra, outra.Perm after → buildChanges intl numerals (lista before) (lista outra) =
      buildChanges intl numerals (lista before) (lista after))
    (vazia : mudancasDoPar intl numerals (some b) (some a) = .ok [] → ∀ b ∈ before, ∀ a ∈ after,
      idDe (.obj b) = idDe (.obj a) → ∀ f, ¬ Difere numerals b a f) :
    LinhaDoLote intl numerals before after := by
  have shown : buildChanges intl numerals (lista before) (lista after) =
      mudancasDoPar intl numerals (some b) (some a) := by rw [buildChanges, par]
  have in_trail := (mem_parearPorId_iff lote).mpr ⟨b, b_mem, a, a_mem, mesmo, rfl⟩
  refine ⟨.inr ⟨b, b_mem, a, a_mem, mesmo, shown⟩, ordem, ?_, ?_, ?_⟩
  · intro nothing b' b'_mem a' a'_mem same f visible
    by_contra differ
    exact vazia (shown ▸ nothing) b' b'_mem a' a'_mem same f ⟨visible, by simpa using differ⟩
  · intro b' a' other
    rw [par] at other
    cases other
    exact in_trail
  · rw [shown]
    constructor
    · intro something
      have differ : ∃ f, Difere numerals b a f := by
        by_contra none_differs
        exact something (mudancasDoPar_eq_nil_iff.mpr (not_exists.mp none_differs))
      exact ⟨_, in_trail, financeChanges_isSome_iff.mpr differ⟩
    · rintro ⟨par', par'_mem, changed⟩ nothing
      obtain ⟨b', b'_mem, a', a'_mem, same, rfl⟩ := (mem_parearPorId_iff lote).mp par'_mem
      obtain ⟨f, differ⟩ := financeChanges_isSome_iff.mp changed
      exact vazia nothing b' b'_mem a' a'_mem same f differ

theorem linhaDoLote_nil : LinhaDoLote intl numerals [] [] := by
  have nothing : buildChanges intl numerals (lista []) (lista []) = .ok [] := rfl
  refine ⟨.inl rfl, fun outra perm => ?_, fun _ b mem => ?_, fun b a par => ?_, ?_⟩
  · rw [perm.eq_nil]
  · cases mem
  · cases par
  · rw [nothing]
    simp [Dinheiro.parearPorId, comoLista, Dinheiro.comChave]

/-- A batch of one record compares it with itself. -/
theorem linhaDoLote_singleton (lote : Lote [b] [a]) : LinhaDoLote intl numerals [b] [a] := by
  have mesmo : idDe (.obj b) = idDe (.obj a) := by
    have ids := lote.mesmos
    simpa [eq_comm] using ids
  have par : parComparavel numerals (lista [b]) (lista [a]) = (some b, some a) := by
    rw [parComparavel_lista lote.length_eq]
    by_cases differ : texto numerals b ≠ texto numerals a
    · have first : primeiroPar numerals [b] [a] = some (b, a) := if_pos differ
      rw [first]
    · have first : primeiroPar numerals [b] [a] = none := if_neg differ
      rw [first]
      rfl
  refine linhaDoLote_of_par lote List.mem_cons_self List.mem_cons_self mesmo par ?_ ?_
  · intro outra perm
    rw [List.perm_singleton.mp perm]
  · intro nothing b' b'_mem a' a'_mem _
    obtain rfl := List.mem_singleton.mp b'_mem
    obtain rfl := List.mem_singleton.mp a'_mem
    exact mudancasDoPar_eq_nil_iff.mp nothing

theorem SempreMostra.linhaDoLote (lote : Lote before after) (two : 1 < before.length)
    (sempre : SempreMostra intl numerals mostrado before after) :
    LinhaDoLote intl numerals before after := by
  obtain ⟨b, a, first, mesmo, shown⟩ := sempre.primeiroPar
  obtain ⟨b_mem, a_mem⟩ := mem_of_primeiroPar first
  have par : parComparavel numerals (lista before) (lista after) = (some b, some a) := by
    rw [parComparavel_lista lote.length_eq, first]
  have every : ∀ outra, outra.Perm after →
      buildChanges intl numerals (lista before) (lista outra) = mostrado := by
    intro outra perm
    obtain ⟨b', a', first', shown'⟩ := sempre.em_ordem lote perm
    rw [buildChanges_of_primeiroPar (lote.perm perm).length_eq first', shown']
  refine linhaDoLote_of_par lote b_mem a_mem mesmo par ?_ ?_
  · intro outra perm
    rw [every outra perm, every after (.refl _)]
  · intro nothing
    exact absurd (shown ▸ nothing) (sempre.ne_nil lote two)

/-- In a batch of two records or more, the rows are somewhere not the same: otherwise another order
shows ids that changed. -/
theorem LinhaDoLote.exists_primeiroPar (lote : Lote before after) (two : 1 < before.length)
    (linha : LinhaDoLote intl numerals before after) (perm : outra.Perm after) :
    ∃ b a, primeiroPar numerals before outra = some (b, a) := by
  have lote' := lote.perm perm
  cases first : primeiroPar numerals before outra with
  | some pair => exact ⟨pair.1, pair.2, rfl⟩
  | none =>
      exfalso
      match before, outra, two, lote'.length_eq with
      | b :: b₂ :: bs, a :: a₂ :: as, _, _ =>
          have igual : texto numerals b = texto numerals a := by
            by_contra differ
            rw [primeiroPar, if_pos differ] at first
            cases first
          have mesmo := idDe_of_texto (lote'.objetos b (.inl List.mem_cons_self))
            (lote'.objetos a (.inr List.mem_cons_self)) igual
          have second : a₂ ∈ a :: a₂ :: as := List.mem_cons_of_mem a List.mem_cons_self
          have apart : idDe (.obj b) ≠ idDe (.obj a₂) := lote'.other mesmo List.mem_cons_self
          have swapped : (a₂ :: a :: as).Perm after := (List.Perm.swap a a₂ as).trans perm
          have first' : primeiroPar numerals (b :: b₂ :: bs) (a₂ :: a :: as) = some (b, a₂) :=
            if_pos (lote'.texto_ne List.mem_cons_self second apart)
          have quiet : mudancasDoPar intl numerals (some b) (some a) = .ok [] :=
            lote'.nada_of_texto List.mem_cons_self List.mem_cons_self igual
          have loud : mudancasDoPar intl numerals (some b) (some a₂) ≠ .ok [] :=
            lote'.mostra List.mem_cons_self second apart
          have here := linha.ordem _ perm
          rw [buildChanges, parComparavel_lista lote'.length_eq, first] at here
          have there := linha.ordem _ swapped
          rw [buildChanges_of_primeiroPar (lote.perm swapped).length_eq first', ← here] at there
          exact loud (there.trans quiet)

/-- The line of a batch is right exactly when there is at most one record, or the rows that come
back could be taken one for another without its showing. -/
theorem linhaDoLote_iff (intl : Intl ν) (numerals : Numerals ν) (lote : Lote before after) :
    LinhaDoLote intl numerals before after ↔
      before.length ≤ 1 ∨ ∃ mostrado, SempreMostra intl numerals mostrado before after := by
  constructor
  case mp =>
      intro linha
      by_cases few : before.length ≤ 1
      · exact .inl few
      · have two : 1 < before.length := Nat.not_le.mp few
        refine .inr ⟨buildChanges intl numerals (lista before) (lista after),
          sempreMostra_of_ordem lote ?_ ?_⟩
        · intro outra perm
          obtain ⟨b, a, first⟩ := linha.exists_primeiroPar lote two perm
          refine ⟨b, a, first, ?_⟩
          rw [← linha.ordem outra perm,
            buildChanges_of_primeiroPar (lote.perm perm).length_eq first]
        · intro b a first
          have par : parComparavel numerals (lista before) (lista after) = (some b, some a) := by
            rw [parComparavel_lista lote.length_eq, first]
          obtain ⟨_, _, _, _, mesmo, same⟩ := (mem_parearPorId_iff lote).mp (linha.mesmoPar b a par)
          cases same
          exact mesmo
  case mpr =>
      rintro (few | ⟨mostrado, sempre⟩)
      · match before, after, few, lote.length_eq with
        | [], [], _, _ => exact linhaDoLote_nil
        | [b], [a], _, _ => exact linhaDoLote_singleton lote
      · by_cases few : before.length ≤ 1
        · match before, after, few, lote.length_eq with
          | [], [], _, _ => exact linhaDoLote_nil
          | [b], [a], _, _ => exact linhaDoLote_singleton lote
        · exact sempre.linhaDoLote lote (Nat.not_le.mp few)

end Par

/-! ### Two payments -/

theorem none_eq_some_empty (n : Empty) : (none : Option Empty) = some n := nomatch n

/-- No number appears in the rows. -/
def semNumeros : Numerals Empty where
  text := nofun
  read := fun _ => none
  starts := nofun
  numeral := nofun
  read_text := none_eq_some_empty

def formatos : Intl Empty where
  currency := Empty.elim
  dateTime := pure

def cobranca (id userId status method : String) : Row Empty :=
  [("id", .str id), ("userId", .str userId), ("status", .str status), ("method", .str method),
    ("updatedAt", .str status)]

/-- Payments of one batch. -/
theorem lote_cobrancas {before after : List (Row Empty)}
    (todas : ∀ row ∈ before ++ after, ∃ id userId status method,
      row = cobranca id userId status method)
    (distintos : (before.map fun row => idDe (.obj row)).Nodup)
    (mesmos : (after.map fun row => idDe (.obj row)).Perm
      (before.map fun row => idDe (.obj row))) :
    Lote before after := by
  refine ⟨fun row mem => ?_, fun row mem => ?_, distintos, mesmos⟩
  · obtain ⟨id, userId, status, method, rfl⟩ := todas row (List.mem_append.mpr mem)
    refine .obj (by simp [cobranca]) fun member inside => ?_
    simp only [cobranca, List.mem_cons, List.not_mem_nil, or_false] at inside
    rcases inside with rfl | rfl | rfl | rfl | rfl
    all_goals exact .str _
  · obtain ⟨id, userId, status, method, rfl⟩ := todas row (List.mem_append.mpr mem)
    rfl

/-- Two payments that differ in nothing that is shown: which is which does not show. -/
theorem linhaDoLote_iff_iguais :
    LinhaDoLote formatos semNumeros
      [cobranca "a" "ana" "WAITING" "PIX", cobranca "b" "bia" "WAITING" "PIX"]
      [cobranca "a" "ana" "PAID" "PIX", cobranca "b" "bia" "PAID" "PIX"] := by
  have lote : Lote [cobranca "a" "ana" "WAITING" "PIX", cobranca "b" "bia" "WAITING" "PIX"]
      [cobranca "a" "ana" "PAID" "PIX", cobranca "b" "bia" "PAID" "PIX"] :=
    lote_cobrancas (by simp [cobranca]) (by decide +kernel) (by decide +kernel)
  apply (linhaDoLote_iff formatos semNumeros lote).mpr
  refine .inr ⟨.ok [⟨"status", "Status", "Aguardando", "Pago"⟩], .mudou rfl (by decide +kernel)
    (by decide +kernel) fun a' mem => ?_⟩
  obtain rfl := List.mem_singleton.mp mem
  decide +kernel

/-- Two payments come back in the other order: the line says that the method changed. -/
theorem not_linhaDoLote :
    Lote [cobranca "a" "ana" "WAITING" "PIX", cobranca "b" "bia" "WAITING" "CASH"]
        [cobranca "b" "bia" "PAID" "CASH", cobranca "a" "ana" "PAID" "PIX"] ∧
      buildChanges formatos semNumeros
          (lista [cobranca "a" "ana" "WAITING" "PIX", cobranca "b" "bia" "WAITING" "CASH"])
          (lista [cobranca "b" "bia" "PAID" "CASH", cobranca "a" "ana" "PAID" "PIX"]) =
        .ok [⟨"status", "Status", "Aguardando", "Pago"⟩,
          ⟨"method", "Método", "Pix", "Dinheiro"⟩] ∧
      ¬ LinhaDoLote formatos semNumeros
        [cobranca "a" "ana" "WAITING" "PIX", cobranca "b" "bia" "WAITING" "CASH"]
        [cobranca "b" "bia" "PAID" "CASH", cobranca "a" "ana" "PAID" "PIX"] := by
  have shown : buildChanges formatos semNumeros
      (lista [cobranca "a" "ana" "WAITING" "PIX", cobranca "b" "bia" "WAITING" "CASH"])
      (lista [cobranca "b" "bia" "PAID" "CASH", cobranca "a" "ana" "PAID" "PIX"]) =
        .ok [⟨"status", "Status", "Aguardando", "Pago"⟩,
          ⟨"method", "Método", "Pix", "Dinheiro"⟩] := by decide +kernel
  refine ⟨lote_cobrancas (by simp [cobranca]) (by decide +kernel) (by decide +kernel), shown,
    fun linha => ?_⟩
  have in_order := linha.ordem [cobranca "a" "ana" "PAID" "PIX", cobranca "b" "bia" "PAID" "CASH"]
    (List.Perm.swap _ _ [])
  rw [shown] at in_order
  revert in_order
  decide +kernel

end IccvBackend.LogDiff
