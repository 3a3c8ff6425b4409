/-
Module: IccvBackend.Proofs.Redaction
Purpose: The log of activities tells of a credential that it changed, and nothing else: two runs of
  writes that differ in credentials only leave the same log, no row of a line has a credential, and
  the mark stands exactly where one record was updated and its credential is not what it was.
Trusted boundary: none
Main exports: Atividades.DiferemEm, Atividades.SoSegredosDiferem, Atividades.Trocado,
  Atividades.SegredosForaDoRegistro, Atividades.segredosForaDoRegistro
-/
import IccvBackend.Logs.Atividades
import IccvBackend.Proofs.LogDiff

namespace IccvBackend.Atividades

open Lib LogDiff Dinheiro

variable {ν : Type} {fields : List String}

/-! ### Values that differ in some names -/

/-- Members with the same names in the same places, and the same under other names. -/
def IguaisFora (fields : List String) (members others : Row ν) : Prop :=
  List.Forall₂ (fun a b => a.1 = b.1 ∧ (a.1 ∉ fields → a.2 = b.2)) members others

/-- Rows that differ in members of some names only. -/
inductive DiferemEm (fields : List String) : JsonValue ν → JsonValue ν → Prop where
  | linha {members others : Row ν} (iguais : IguaisFora fields members others) :
      DiferemEm fields (.obj members) (.obj others)
  | igual (row : JsonValue ν) : DiferemEm fields row row

/-- Snapshots whose rows differ in members of some names only. -/
inductive RetratosDiferemEm (fields : List String) : JsonValue ν → JsonValue ν → Prop where
  | linhas {rows others : List (JsonValue ν)} (each : List.Forall₂ (DiferemEm fields) rows others) :
      RetratosDiferemEm fields (.arr rows) (.arr others)
  | linha {row other : JsonValue ν} (differ : DiferemEm fields row other) :
      RetratosDiferemEm fields row other

section Diferencas

variable {members others : Row ν} {row other before after : JsonValue ν} {f : String}

theorem filter_of_iguaisFora (iguais : IguaisFora fields members others) :
    (members.filter fun member => !fields.contains member.1) =
      others.filter fun member => !fields.contains member.1 := by
  induction iguais with
  | nil => rfl
  | @cons a b as bs same rest ih =>
      by_cases secret : a.1 ∈ fields
      · have secret' : b.1 ∈ fields := same.1 ▸ secret
        rw [List.filter_cons_of_neg (by simpa using secret),
          List.filter_cons_of_neg (by simpa using secret'), ih]
      · have equal : a = b := Prod.ext same.1 (same.2 secret)
        subst equal
        rw [List.filter_cons_of_pos (by simpa using secret),
          List.filter_cons_of_pos (by simpa using secret), ih]

theorem lookup_of_iguaisFora (iguais : IguaisFora fields members others) (shown : f ∉ fields) :
    members.lookup f = others.lookup f := by
  induction iguais with
  | nil => rfl
  | @cons a b as bs same rest ih =>
      rw [List.lookup_cons, List.lookup_cons, ih, ← same.1]
      by_cases here : f = a.1
      · have value : a.2 = b.2 := same.2 (here ▸ shown)
        rw [value]
      · rw [beq_false_of_ne here]

/-- Rows that differ in no name are one row. -/
theorem eq_of_diferemEm_nil (differ : DiferemEm [] row other) : row = other := by
  cases differ with
  | linha iguais => simpa using filter_of_iguaisFora iguais
  | igual => rfl

theorem eq_of_retratos_nil (differ : RetratosDiferemEm [] before after) : before = after := by
  cases differ with
  | linhas each =>
      congr 1
      exact List.forall₂_eq_eq_eq ▸ each.imp fun _ _ => eq_of_diferemEm_nil
  | linha differ => exact eq_of_diferemEm_nil differ

theorem limpar_of_diferemEm (differ : DiferemEm fields row other) :
    limpar fields row = limpar fields other := by
  cases differ with
  | linha iguais => simp only [limpar, espalhado, filter_of_iguaisFora iguais]
  | igual => rfl

theorem limparTodas_of_retratos (differ : RetratosDiferemEm fields before after) :
    limparTodas fields before = limparTodas fields after := by
  cases differ with
  | linhas each =>
      simp only [limparTodas]
      congr 1
      induction each with
      | nil => rfl
      | cons here _ ih => rw [List.map_cons, List.map_cons, limpar_of_diferemEm here, ih]
  | linha differ =>
      cases differ with
      | linha iguais => exact limpar_of_diferemEm (.linha iguais)
      | igual => rfl

theorem textoDe_of_diferemEm (differ : DiferemEm fields row other) (shown : f ∉ fields) :
    textoDe f row = textoDe f other := by
  cases differ with
  | linha iguais =>
      simp only [textoDe, asObject, Option.bind_some, lookup_of_iguaisFora iguais shown]
  | igual => rfl

theorem textoDe_of_retratos (differ : RetratosDiferemEm fields before after) (shown : f ∉ fields) :
    textoDe f before = textoDe f after := by
  cases differ with
  | linhas each => rfl
  | linha differ => exact textoDe_of_diferemEm differ shown

theorem comoLista_of_retratos (differ : RetratosDiferemEm fields before after) :
    List.Forall₂ (DiferemEm fields) (comoLista before) (comoLista after) := by
  have same : ∀ rows : List (JsonValue ν), List.Forall₂ (DiferemEm fields) rows rows :=
    fun rows => List.forall₂_same.mpr fun row _ => .igual row
  cases differ with
  | linhas each => exact each
  | linha differ =>
      cases differ with
      | linha iguais => exact .cons (.linha iguais) .nil
      | igual => exact same _

variable {rows otherRows : List (JsonValue ν)}

/-- What is read of the rows in a name that is not one of those is the same. -/
theorem map_textoDe_of_diferemEm (each : List.Forall₂ (DiferemEm fields) rows otherRows)
    (shown : f ∉ fields) : rows.map (textoDe f) = otherRows.map (textoDe f) := by
  induction each with
  | nil => rfl
  | cons here _ ih => rw [List.map_cons, List.map_cons, textoDe_of_diferemEm here shown, ih]

theorem filterMap_textoDe_of_diferemEm (each : List.Forall₂ (DiferemEm fields) rows otherRows)
    (shown : f ∉ fields) : rows.filterMap (textoDe f) = otherRows.filterMap (textoDe f) := by
  have texts := congrArg (List.filterMap id) (map_textoDe_of_diferemEm each shown)
  rwa [List.filterMap_map, List.filterMap_map, Function.id_comp] at texts

theorem primeira_textoDe_of_retratos (differ : RetratosDiferemEm fields before after)
    (shown : f ∉ fields) :
    (primeira before).bind (textoDe f) = (primeira after).bind (textoDe f) := by
  cases differ with
  | linhas each =>
      cases each with
      | nil => rfl
      | cons here _ => exact textoDe_of_diferemEm here shown
  | linha differ =>
      cases differ with
      | linha iguais => rfl
      | igual => rfl

end Diferencas

/-! ### What is left out -/

/-- What the rows of a snapshot say in a field. -/
def ditos (field : String) (snapshot : JsonValue ν) : List (JsonValue ν) :=
  (comoLista snapshot).filterMap fun row =>
    (asObject (some row)).bind fun members => members.lookup field

section Ditos

variable {f : String} {members : Row ν}

theorem ditos_obj : ditos f (.obj members) = (members.lookup f).toList := by
  have said : ditos f (.obj members) = [JsonValue.obj members].filterMap fun row =>
      (asObject (some row)).bind fun members => members.lookup f := rfl
  rw [said, List.filterMap_cons, List.filterMap_nil, asObject, Option.bind_some]
  cases members.lookup f <;> rfl

theorem lookup_filter_of_left_out (left_out : f ∈ fields) :
    (members.filter fun member => !fields.contains member.1).lookup f = none := by
  rw [List.lookup_eq_none_iff]
  intro member mem
  have kept := (List.mem_filter.mp mem).2
  rw [bne_iff_ne]
  rintro rfl
  simp [left_out] at kept

theorem lookup_limpar (left_out : f ∈ fields) (row : JsonValue ν) :
    ((asObject (some (limpar fields row))).bind fun members => members.lookup f) = none := by
  cases row with
  | obj members => exact lookup_filter_of_left_out left_out
  | arr items => exact lookup_filter_of_left_out left_out
  | null | bool _ | num _ | str _ => rfl

theorem ditos_limparTodas (left_out : f ∈ fields) (snapshot : JsonValue ν) :
    ditos f (limparTodas fields snapshot) = [] := by
  rw [ditos, List.filterMap_eq_nil_iff]
  intro row mem
  cases snapshot with
  | arr rows =>
      obtain ⟨row', _, rfl⟩ := List.mem_map.mp mem
      exact lookup_limpar left_out row'
  | obj members =>
      obtain rfl := List.mem_singleton.mp mem
      exact lookup_limpar left_out (.obj members)
  | null => cases mem
  | bool _ | num _ | str _ =>
      obtain rfl := List.mem_singleton.mp mem
      rfl

theorem lookup_marcas (campos : List String) :
    (campos.map fun field => (field, (JsonValue.str changedMarker : JsonValue ν))).lookup f =
      if f ∈ campos then some (.str changedMarker) else none := by
  induction campos with
  | nil => rfl
  | cons campo campos ih =>
      rw [List.map_cons, List.lookup_cons, ih]
      by_cases here : f = campo
      · simp [here]
      · rw [beq_false_of_ne here]
        simp [here]

/-- A row of which some fields are left out says the mark in those that are marked. -/
theorem ditos_marcar (campos : List String) (left_out : f ∈ fields) :
    ditos f (marcar campos (limparTodas fields (.obj members))) =
      if f ∈ campos then [.str changedMarker] else [] := by
  have row : marcar campos (limparTodas fields (.obj members)) =
      .obj ((members.filter fun member => !fields.contains member.1) ++
        campos.map fun field => (field, .str changedMarker)) := rfl
  rw [row, ditos_obj, List.lookup_append, lookup_filter_of_left_out left_out, Option.none_or,
    lookup_marcas]
  split <;> rfl

/-- Past a single row nothing is marked. -/
theorem marcar_of_not_obj {after : JsonValue ν} (campos : List String)
    (batch : ∀ members, after ≠ .obj members) :
    marcar campos (limparTodas fields after) = limparTodas fields after := by
  cases after with
  | obj members => exact absurd rfl (batch members)
  | null | bool _ | num _ | str _ | arr _ => rfl

end Ditos

/-! ### Credentials -/

/-- The fields of a table that stay out of the log. -/
def segredosDe (model : String) : List String := (redactedFields.lookup model).getD []

/-- What holds of each field of the table holds of the ones of a model. -/
theorem of_segredosDe {P : String → String → Prop} {model f : String}
    (each : ∀ row ∈ redactedFields, ∀ field ∈ row.2, P row.1 field)
    (secret : f ∈ segredosDe model) : P model f := by
  rw [segredosDe] at secret
  cases table : redactedFields.lookup model with
  | none =>
      rw [table] at secret
      cases secret
  | some fields =>
      rw [table, Option.getD_some] at secret
      have mem : (model, fields) ∈ redactedFields := by
        obtain ⟨before, after, split, _⟩ := List.lookup_eq_some_iff.mp table
        simp [split]
      exact each _ mem f secret

/-- None of them says whom a row is about. -/
theorem shown_of_segredosDe {f : String} (model : String) (about : f = "id" ∨ f = "userId") :
    f ∉ segredosDe model := by
  intro secret
  have apart : f ≠ "id" ∧ f ≠ "userId" :=
    of_segredosDe (P := fun _ field => field ≠ "id" ∧ field ≠ "userId") (by decide) secret
  exact about.elim apart.1 apart.2

variable [DecidableEq ν] {numerals : Numerals ν}

/-- Two writes that differ in the credentials of their rows, where what the line tells of these is
the same: whether anything changed, and which of them did.  What the request says is the same too,
unless a row brings the id, which goes in its place. -/
structure SoSegredosDiferem (numerals : Numerals ν) (w w' : Escrita ν) : Prop where
  model : w.model = w'.model
  action : w.action = w'.action
  pedido : w.id?.isSome ∨ w.pedido = w'.pedido
  before : RetratosDiferemEm (segredosDe w.model) w.before w'.before
  after : RetratosDiferemEm (segredosDe w.model) w.after w'.after
  userId : w.userId = w'.userId
  requestId : w.requestId = w'.requestId
  operation : w.operation = w'.operation
  mudou : nothingChanged numerals w.before w.after = nothingChanged numerals w'.before w'.after
  quais : alterados (segredosDe w.model) w.before w.after =
    alterados (segredosDe w.model) w'.before w'.after

/-- Two changes of the password of one person. -/
example : SoSegredosDiferem semNumeros
    ⟨"User", .update, .null, .obj [("id", .str "ana"), ("password", .str "a")],
      .obj [("id", .str "ana"), ("password", .str "b")], none, none, none⟩
    ⟨"User", .update, .null, .obj [("id", .str "ana"), ("password", .str "c")],
      .obj [("id", .str "ana"), ("password", .str "d")], none, none, none⟩ := by
  have pair : ∀ a b : String, RetratosDiferemEm ["password"]
      (.obj [("id", .str "ana"), ("password", .str a)] : JsonValue Empty)
      (.obj [("id", .str "ana"), ("password", .str b)]) := by
    intro a b
    exact .linha (.linha (.cons ⟨rfl, fun _ => rfl⟩
      (.cons ⟨rfl, fun shown => absurd List.mem_cons_self shown⟩ .nil)))
  exact ⟨rfl, rfl, .inl rfl, pair "a" "c", pair "b" "d", rfl, rfl, rfl, by decide +kernel,
    by decide +kernel⟩

namespace SoSegredosDiferem

variable {w w' : Escrita ν}

theorem id?_eq (differ : SoSegredosDiferem numerals w w') : w.id? = w'.id? := by
  have shown := shown_of_segredosDe w.model (.inl rfl)
  have antes := comoLista_of_retratos differ.before
  rw [Escrita.id?, Escrita.id?, ← differ.action]
  cases w.action with
  | create | update | upsert => exact textoDe_of_retratos differ.after shown
  | delete => exact textoDe_of_retratos differ.before shown
  | createMany => exact primeira_textoDe_of_retratos differ.after shown
  | deleteMany => exact primeira_textoDe_of_retratos differ.before shown
  | updateMany => exact congrArg (List.find? _) (filterMap_textoDe_of_diferemEm antes shown)

theorem entityId_eq (differ : SoSegredosDiferem numerals w w') :
    w.entityId numerals = w'.entityId numerals := by
  rw [Escrita.entityId, Escrita.entityId, ← differ.id?_eq]
  rcases differ.pedido with brings | same
  · obtain ⟨id, found⟩ := Option.isSome_iff_exists.mp brings
    rw [found, Option.getD_some, Option.getD_some]
  · rw [same]

theorem extractTargetUserIds_eq (differ : SoSegredosDiferem numerals w w') (entityId : String) :
    extractTargetUserIds w.model entityId w.before w.after =
      extractTargetUserIds w.model entityId w'.before w'.after := by
  have shown : (if w.model = "User" then "id" else "userId") ∉ segredosDe w.model := by
    apply shown_of_segredosDe
    split
    · exact .inl rfl
    · exact .inr rfl
  rw [extractTargetUserIds, extractTargetUserIds,
    filterMap_textoDe_of_diferemEm (comoLista_of_retratos differ.before) shown,
    filterMap_textoDe_of_diferemEm (comoLista_of_retratos differ.after) shown]

theorem redactPair_eq (differ : SoSegredosDiferem numerals w w') :
    redactPair w.model w.before w.after = redactPair w.model w'.before w'.after := by
  have before := differ.before
  have after := differ.after
  have quais := differ.quais
  rw [segredosDe] at before after quais
  rw [redactPair, redactPair]
  cases table : redactedFields.lookup w.model with
  | none =>
      rw [table, Option.getD_none] at before after
      rw [eq_of_retratos_nil before, eq_of_retratos_nil after]
  | some fields =>
      rw [table, Option.getD_some] at before after quais
      simp only [redactSnapshot, table, quais, limparTodas_of_retratos before,
        limparTodas_of_retratos after]

theorem registrar_eq (differ : SoSegredosDiferem numerals w w') :
    registrar numerals w = registrar numerals w' := by
  rw [registrar, registrar, ← differ.model, ← differ.action, ← differ.userId, ← differ.requestId,
    ← differ.operation, ← differ.mudou, ← differ.redactPair_eq, ← differ.entityId_eq,
    ← differ.extractTargetUserIds_eq]

end SoSegredosDiferem

theorem registro_eq {escritas outras : List (Escrita ν)}
    (differ : List.Forall₂ (SoSegredosDiferem numerals) escritas outras) :
    registro numerals escritas = registro numerals outras := by
  induction differ with
  | nil => rfl
  | cons here _ ih =>
      rw [registro, registro, List.filterMap_cons, List.filterMap_cons, here.registrar_eq]
      rw [registro, registro] at ih
      rw [ih]

/-! ### The mark -/

/-- A write of one record, which was read before, leaves in a field what was not there.  A list of
photos that is read again is not the one that was. -/
def Trocado (field : String) (w : Escrita ν) : Prop :=
  ∃ antes depois value, asObject (first w.before) = some antes ∧ w.after = .obj depois ∧
    depois.lookup field = some value ∧ estritamenteIgual (antes.lookup field) (some value) = false

variable {w : Escrita ν} {linha : Linha ν} {f : String} {before after : JsonValue ν}

theorem mem_alterados_iff : f ∈ alterados fields before after ↔
    f ∈ fields ∧ ∃ antes depois value, asObject (first before) = some antes ∧
      asObject (first after) = some depois ∧ depois.lookup f = some value ∧
        estritamenteIgual (antes.lookup f) (some value) = false := by
  rw [alterados]
  cases asObject (first before) with
  | none => simp
  | some antes =>
      cases asObject (first after) with
      | none => simp
      | some depois => cases value : depois.lookup f <;> simp [List.mem_filter, value]

theorem trocado_iff_mem_alterados {members : Row ν} (one : w.after = .obj members)
    (secret : f ∈ fields) : Trocado f w ↔ f ∈ alterados fields w.before w.after := by
  have row : first w.after = some (.obj members) := by rw [one]; rfl
  rw [mem_alterados_iff, Trocado, row, one]
  simp [secret, asObject]

/-- The two sides of a line, where the table has credentials. -/
theorem redactPair_of_secret {model : String} (secret : f ∈ segredosDe model) :
    redactPair model before after =
      (limparTodas (segredosDe model) before,
        marcar (alterados (segredosDe model) before after)
          (limparTodas (segredosDe model) after)) := by
  rw [segredosDe] at secret ⊢
  cases table : redactedFields.lookup model with
  | none =>
      rw [table] at secret
      cases secret
  | some fields => simp only [redactPair, redactSnapshot, table, Option.getD_some]

theorem retratos_of_registrar (written : registrar numerals w = some linha) :
    linha.before = (redactPair w.model w.before w.after).1 ∧
      linha.after = (redactPair w.model w.before w.after).2 := by
  rw [registrar] at written
  split at written
  · cases written
  · cases written
    exact ⟨rfl, rfl⟩

theorem ditos_before (written : registrar numerals w = some linha)
    (secret : f ∈ segredosDe w.model) : ditos f linha.before = [] := by
  rw [(retratos_of_registrar written).1, redactPair_of_secret secret]
  exact ditos_limparTodas secret w.before

/-- After a write, the mark stands for a credential exactly where it is not what it was. -/
theorem ditos_after (written : registrar numerals w = some linha)
    (secret : f ∈ segredosDe w.model) :
    (Trocado f w ∧ ditos f linha.after = [.str changedMarker]) ∨
      (¬ Trocado f w ∧ ditos f linha.after = []) := by
  rw [(retratos_of_registrar written).2, redactPair_of_secret secret]
  by_cases one : ∃ members, w.after = .obj members
  · obtain ⟨members, one⟩ := one
    rw [trocado_iff_mem_alterados one secret]
    by_cases marked : f ∈ alterados (segredosDe w.model) w.before w.after
    · refine .inl ⟨marked, ?_⟩
      rw [one] at marked ⊢
      rw [ditos_marcar _ secret, if_pos marked]
    · refine .inr ⟨marked, ?_⟩
      rw [one] at marked ⊢
      rw [ditos_marcar _ secret, if_neg marked]
  · refine .inr ⟨fun ⟨_, depois, _, _, row, _⟩ => one ⟨depois, row⟩, ?_⟩
    rw [marcar_of_not_obj _ (not_exists.mp one)]
    exact ditos_limparTodas secret w.after

/-! ### No change is lost -/

theorem eq_of_estritamenteIgual {a b : Option (JsonValue ν)} (same : estritamenteIgual a b = true) :
    a = b := by
  unfold estritamenteIgual at same
  split at same <;> simp_all

omit [DecidableEq ν] in
/-- A write of one record that changes a credential is not taken for one that changes nothing. -/
theorem nothingChanged_of_ne (numerals : Numerals ν) {antes depois : Row ν}
    (antes_ok : JsonValue.WellFormed (.obj antes)) (depois_ok : JsonValue.WellFormed (.obj depois))
    (shown : f ∉ timestampFields) (differ : antes.lookup f ≠ depois.lookup f) :
    nothingChanged numerals (.obj antes) (.obj depois) = false := by
  by_contra same
  rw [Bool.not_eq_false] at same
  have texts : JsonValue.stringify numerals (limparTodas timestampFields (.obj antes)) =
      JsonValue.stringify numerals (limparTodas timestampFields (.obj depois)) := by
    simpa [nothingChanged, mesmoTexto] using same
  have rows := JsonValue.obj.inj
    (stringify_inj (wellFormed_filter _ antes_ok) (wellFormed_filter _ depois_ok) texts)
  apply differ
  rw [← lookup_filter_of_shown shown, rows, lookup_filter_of_shown shown]

/-- It leaves a line with the mark. -/
theorem exists_registrar_of_ne (numerals : Numerals ν) {antes depois : Row ν}
    (update : w.action = .update) (found : w.anterior = .obj antes)
    (left : w.posterior = .obj depois)
    (antes_ok : JsonValue.WellFormed (.obj antes)) (depois_ok : JsonValue.WellFormed (.obj depois))
    (secret : f ∈ segredosDe w.model) (there : (depois.lookup f).isSome)
    (differ : antes.lookup f ≠ depois.lookup f) :
    ∃ linha, registrar numerals w = some linha ∧ ditos f linha.after = [.str changedMarker] := by
  have w_before : w.before = .obj antes := by rw [Escrita.before, update, ← found]; rfl
  have w_after : w.after = .obj depois := by rw [Escrita.after, update, ← left]
  have registrado : foraDaAuditoria.contains w.model = false :=
    of_segredosDe (P := fun model _ => foraDaAuditoria.contains model = false) (by decide) secret
  have shown : f ∉ timestampFields :=
    of_segredosDe (P := fun _ field => field ∉ timestampFields) (by decide) secret
  obtain ⟨linha, written⟩ : ∃ linha, registrar numerals w = some linha := by
    rw [registrar, registrado, w_before, w_after,
      nothingChanged_of_ne numerals antes_ok depois_ok shown differ]
    exact ⟨_, rfl⟩
  refine ⟨linha, written, ?_⟩
  obtain ⟨value, value_eq⟩ := Option.isSome_iff_exists.mp there
  have changed : Trocado f w := by
    refine ⟨antes, depois, value, by rw [w_before]; rfl, w_after, value_eq, ?_⟩
    by_contra same
    rw [Bool.not_eq_false] at same
    exact differ ((eq_of_estritamenteIgual same).trans value_eq.symm)
  rcases ditos_after written secret with ⟨_, mark⟩ | ⟨kept, _⟩
  · exact mark
  · exact absurd changed kept

/-- A write whose rows are not read before leaves a line, and no mark on it. -/
theorem exists_registrar_of_not_leAntes (numerals : Numerals ν) (blind : w.action.leAntes = false)
    (registrado : foraDaAuditoria.contains w.model = false) :
    ∃ linha, registrar numerals w = some linha ∧
      ∀ f ∈ segredosDe w.model, ditos f linha.after = [] := by
  have w_before : w.before = .null := by rw [Escrita.before, blind]; rfl
  obtain ⟨linha, written⟩ : ∃ linha, registrar numerals w = some linha := by
    rw [registrar, registrado, w_before]
    exact ⟨_, rfl⟩
  refine ⟨linha, written, fun f secret => ?_⟩
  rcases ditos_after written secret with ⟨⟨antes, _, _, row, _⟩, _⟩ | ⟨_, nothing⟩
  · rw [w_before] at row
    cases row
  · exact nothing

/-! ### The screen -/

section Tela

variable {intl : Intl ν} {mudancas : List LogChange} {m : LogChange}

omit [DecidableEq ν] in
theorem campo_getElem? {items : List (JsonValue ν)} (nothing : ditos f (.arr items) = [])
    (i : Nat) :
    campo (asObject items[i]?) f = .null := by
  cases item : items[i]? with
  | none => rfl
  | some row =>
      have none_there := List.filterMap_eq_nil_iff.mp nothing row (List.mem_of_getElem? item)
      rw [campo, none_there, Option.getD_none]

omit [DecidableEq ν] in
theorem campo_pick (nothing : ditos f before = []) : campo (pick before) f = .null := by
  cases before with
  | arr items => exact campo_getElem? nothing 0
  | obj members =>
      rw [ditos_obj, Option.toList_eq_nil_iff] at nothing
      simp [pick, asObject, campo, nothing]
  | null | bool _ | num _ | str _ => rfl

/-- Where no row says anything in a field, neither does the row that is compared. -/
theorem campo_parComparavel_fst (nothing : ditos f before = []) (after : JsonValue ν) :
    campo (parComparavel numerals before after).1 f = .null := by
  unfold parComparavel
  split
  · exact campo_getElem? nothing _
  · exact campo_pick nothing

theorem campo_parComparavel_snd (nothing : ditos f after = []) (before : JsonValue ν) :
    campo (parComparavel numerals before after).2 f = .null := by
  unfold parComparavel
  split
  · exact campo_getElem? nothing _
  · exact campo_pick nothing

/-- The row that is compared has the mark where a credential is not what it was. -/
theorem campo_of_trocado (written : registrar numerals w = some linha)
    (secret : f ∈ segredosDe w.model) (changed : Trocado f w) :
    campo (parComparavel numerals linha.before linha.after).2 f = .str changedMarker := by
  obtain ⟨members, one⟩ : ∃ members, linha.after = .obj members := by
    obtain ⟨_, depois, _, _, row, _⟩ := changed
    rw [(retratos_of_registrar written).2, redactPair_of_secret secret, row]
    exact ⟨_, rfl⟩
  have marked : members.lookup f = some (.str changedMarker) := by
    rcases ditos_after written secret with ⟨_, mark⟩ | ⟨kept, _⟩
    · rw [one, ditos_obj] at mark
      cases found : members.lookup f with
      | none =>
          rw [found] at mark
          cases mark
      | some value =>
          rw [found] at mark
          cases mark
          rfl
    · exact absurd changed kept
  have row : (parComparavel numerals linha.before linha.after).2 = some members := by
    rw [one]
    unfold parComparavel
    split
    · simp_all
    · rfl
  rw [row, campo, Option.bind_some, marked, Option.getD_some]

omit [DecidableEq ν] in
theorem formatValue_changedMarker (secret : f ∈ segredosDe w.model) (position : Posicao) :
    formatValue intl numerals f (.str changedMarker) position = .ok changedMarker := by
  have labels : enumLabels.lookup f = none :=
    of_segredosDe (P := fun _ field => enumLabels.lookup field = none) (by decide) secret
  have date : isoDate changedMarker = false := by decide
  have text : changedMarker ≠ "" := by decide
  rw [formatValue, if_neg text, labels]
  simp only [Option.bind_none, date, Bool.false_eq_true, if_false]
  rfl

omit [DecidableEq ν] in
theorem mesmoTexto_changedMarker :
    mesmoTexto numerals .null (.str changedMarker : JsonValue ν) = false := by
  rw [mesmoTexto, decide_eq_false_iff_not]
  intro same
  cases stringify_inj .null (.str _) same

/-- What is compared in the place of a credential: the mark against nothing, where it is not what it
was, and nothing against nothing elsewhere. -/
theorem campos_of_registrar (written : registrar numerals w = some linha)
    (secret : f ∈ segredosDe w.model) :
    campo (parComparavel numerals linha.before linha.after).1 f = .null ∧
      ((Trocado f w ∧
          campo (parComparavel numerals linha.before linha.after).2 f = .str changedMarker) ∨
        (¬ Trocado f w ∧ campo (parComparavel numerals linha.before linha.after).2 f = .null)) := by
  refine ⟨campo_parComparavel_fst (ditos_before written secret) _, ?_⟩
  rcases ditos_after written secret with ⟨changed, _⟩ | ⟨kept, nothing⟩
  · exact .inl ⟨changed, campo_of_trocado written secret changed⟩
  · exact .inr ⟨kept, campo_parComparavel_snd nothing _⟩

/-- A change that is shown of a credential tells that it changed, and where it did. -/
theorem mudanca_of_registrar (written : registrar numerals w = some linha)
    (secret : m.field ∈ segredosDe w.model)
    (shown : buildChanges intl numerals linha.before linha.after = .ok mudancas)
    (mem : m ∈ mudancas) : Trocado m.field w ∧ m.before = "—" ∧ m.after = changedMarker := by
  have plain : isIdField m.field = false :=
    of_segredosDe (P := fun _ field => isIdField field = false) (by decide) secret
  obtain ⟨before_null, after_marked⟩ := campos_of_registrar written secret
  rcases mudancasDoPar_cases shown with ⟨_, _, rfl⟩ | ⟨changes, idChanges, compared, listed⟩
  · cases mem
  · have mem' : m ∈ changes ∨ m ∈ idChanges := by
      rcases listed with ⟨_, rfl⟩ | rfl
      · exact .inr mem
      · exact .inl mem
    obtain ⟨differ, before_eq, after_eq⟩ := valores_of_comparar plain compared mem'
    rw [before_null] at differ before_eq
    rcases after_marked with ⟨changed, marked⟩ | ⟨_, after_null⟩
    · rw [marked, formatValue_changedMarker secret] at after_eq
      exact ⟨changed, (Except.ok.inj before_eq).symm, (Except.ok.inj after_eq).symm⟩
    · rw [after_null] at differ
      simp [mesmoTexto] at differ

/-- A credential that changed is shown. -/
theorem exists_mudanca_of_trocado (written : registrar numerals w = some linha)
    (secret : f ∈ segredosDe w.model)
    (shown : buildChanges intl numerals linha.before linha.after = .ok mudancas)
    (changed : Trocado f w) : ∃ m ∈ mudancas, m.field = f := by
  have plain : isIdField f = false :=
    of_segredosDe (P := fun _ field => isIdField field = false) (by decide) secret
  have visible : f ∉ hiddenFields :=
    of_segredosDe (P := fun _ field => field ∉ hiddenFields) (by decide) secret
  have before_null := (campos_of_registrar written secret).1
  have marked := campo_of_trocado written secret changed
  have differ : mesmoTexto numerals (campo (parComparavel numerals linha.before linha.after).1 f)
      (campo (parComparavel numerals linha.before linha.after).2 f) = false := by
    rw [before_null, marked]
    exact mesmoTexto_changedMarker
  rcases mudancasDoPar_cases shown with ⟨_, a_none, _⟩ | ⟨changes, idChanges, compared, listed⟩
  · rw [a_none] at marked
    cases marked
  · obtain ⟨m, m_mem, m_field⟩ := comparar_of_difere visible differ (mem_camposDe differ) compared
    rw [plain] at m_mem
    rcases listed with ⟨rfl, _⟩ | rfl
    · cases m_mem
    · exact ⟨m, m_mem, m_field⟩

end Tela

/-- The log of activities guards credentials: it is a function of all else and of which changed; no
line has one; the mark in its place, and what the screen shows of it, say that it changed; no update
of one is lost; and a write whose rows are not read before, an upsert, has its line and never the
mark. -/
structure SegredosForaDoRegistro (numerals : Numerals ν) : Prop where
  semVazamento : ∀ escritas outras, List.Forall₂ (SoSegredosDiferem numerals) escritas outras →
    registro numerals escritas = registro numerals outras
  semSegredo : ∀ w linha f, registrar numerals w = some linha → f ∈ segredosDe w.model →
    ditos f linha.before = [] ∧ ∀ value ∈ ditos f linha.after, value = .str changedMarker
  marca : ∀ w linha f, registrar numerals w = some linha → f ∈ segredosDe w.model →
    (ditos f linha.after ≠ [] ↔ Trocado f w)
  tela : ∀ (intl : Intl ν) w linha mudancas f, registrar numerals w = some linha →
    f ∈ segredosDe w.model → buildChanges intl numerals linha.before linha.after = .ok mudancas →
      (∀ m ∈ mudancas, m.field = f → m.before = "—" ∧ m.after = changedMarker) ∧
        ((∃ m ∈ mudancas, m.field = f) ↔ Trocado f w)
  semPerda : ∀ (w : Escrita ν) antes depois f, w.action = .update →
    w.anterior = .obj antes → w.posterior = .obj depois →
    JsonValue.WellFormed (.obj antes) → JsonValue.WellFormed (.obj depois) →
      f ∈ segredosDe w.model → (depois.lookup f).isSome → antes.lookup f ≠ depois.lookup f →
        ∃ linha, registrar numerals w = some linha ∧ ditos f linha.after = [.str changedMarker]
  semLeitura : ∀ w : Escrita ν, w.action.leAntes = false →
    foraDaAuditoria.contains w.model = false →
      ∃ linha, registrar numerals w = some linha ∧
        ∀ f ∈ segredosDe w.model, ditos f linha.after = []

end IccvBackend.Atividades
