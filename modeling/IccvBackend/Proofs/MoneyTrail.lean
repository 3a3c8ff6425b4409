/-
Module: IccvBackend.Proofs.MoneyTrail
Purpose: When the trail of money tells what happened to each payment.
Trusted boundary: none
Main exports: Auditoria.TrilhaVerdadeira, Auditoria.Fiel, Auditoria.trilhaVerdadeira_run
-/
import IccvBackend.Lib.Trail
import IccvBackend.Prisma.Audit

namespace IccvBackend

open Lib

/-! ### Snapshots of rows -/

/-- Amount and status, each absent when there is no row. -/
abbrev Valores := Option ℚ × Option PaymentStatus

def valoresDe (linha : Option Payment) : Valores :=
  (linha.map Payment.amount, linha.map Payment.status)

def Retrato.valores (retrato : Option Retrato) : Valores :=
  (retrato.bind Retrato.amount, retrato.bind Retrato.status)

/-- What a line says: the values before and after. -/
def Linha.passo (linha : Linha) : Valores × Valores :=
  ((linha.amountBefore, linha.statusBefore), (linha.amountAfter, linha.statusAfter))

/-- The row with an id. -/
def linhaDe (rows : List Payment) (i : Id) : Option Payment := rows.find? fun p => p.id = i

theorem linhaDe_eq_some {rows : List Payment} (nodup : (rows.map Payment.id).Nodup)
    {p : Payment} (mem : p ∈ rows) : linhaDe rows p.id = some p := by
  unfold linhaDe
  cases found : rows.find? fun q => q.id = p.id with
  | none => simpa using List.find?_eq_none.mp found p mem
  | some q =>
      have same : q.id = p.id := by simpa using List.find?_some found
      rw [List.inj_on_of_nodup_map nodup (List.mem_of_find?_eq_some found) mem same]

theorem linhaDe_eq_none {rows : List Payment} {i : Id} (absent : i ∉ rows.map Payment.id) :
    linhaDe rows i = none := by
  apply List.find?_eq_none.mpr
  intro p mem
  have other : p.id ≠ i := fun same => absent (same ▸ List.mem_map_of_mem mem)
  simpa using other

/-- With every id present, a snapshot is filed under the ids. -/
theorem comChave_map {f : Payment → Retrato} (keeps : ∀ p, (f p).id = some p.id)
    (rows : List Payment) (indice : Nat) :
    comChave indice (rows.map f) = rows.map fun p => (Chave.id p.id, f p) := by
  induction rows generalizing indice with
  | nil => rfl
  | cons p rows ih => simp [comChave, chave, keeps, ih]

theorem arquivado_map (f : Payment → Retrato) {rows : List Payment}
    (nodup : (rows.map Payment.id).Nodup) (i : Id) :
    arquivado (.id i) (rows.map fun p => (Chave.id p.id, f p)) = (linhaDe rows i).map f := by
  have reversed : arquivado (.id i) (rows.map fun p => (Chave.id p.id, f p)) =
      (linhaDe rows.reverse i).map f := by
    simp [arquivado, linhaDe, ← List.map_reverse, List.find?_map, Function.comp_def]
  have nodup' : (rows.reverse.map Payment.id).Nodup := by
    rw [List.map_reverse]
    exact List.nodup_reverse.mpr nodup
  rw [reversed]
  congr 1
  by_cases mem : i ∈ rows.map Payment.id
  · obtain ⟨p, p_mem, rfl⟩ := List.mem_map.mp mem
    rw [linhaDe_eq_some nodup p_mem, linhaDe_eq_some nodup' (List.mem_reverse.mpr p_mem)]
  · rw [linhaDe_eq_none mem, linhaDe_eq_none (by simpa using mem)]

/-! ### The lines of one payment -/

/-- The lines of a payment, as the values before and after. -/
def passosDe (i : Id) (linhas : List Linha) : List (Valores × Valores) :=
  (linhas.filter fun linha => linha.paymentId = some i).map Linha.passo

theorem passosDe_append (i : Id) (first second : List Linha) :
    passosDe i (first ++ second) = passosDe i first ++ passosDe i second := by
  simp [passosDe]

/-- Between two snapshots that show the id of every row, the trail gets one line for each payment
found in either. -/
theorem passosDe_registrar (action : Acao) {antes depois : List Payment} {f g : Payment → Retrato}
    (f_id : ∀ p, (f p).id = some p.id) (g_id : ∀ p, (g p).id = some p.id)
    (antes_nodup : (antes.map Payment.id).Nodup) (depois_nodup : (depois.map Payment.id).Nodup)
    (i : Id) :
    passosDe i ((parearPorId (antes.map f) (depois.map g)).map (linhaDoPar action)) =
      if i ∈ antes.map Payment.id ++ depois.map Payment.id then
        [(Retrato.valores ((linhaDe antes i).map f), Retrato.valores ((linhaDe depois i).map g))]
      else [] := by
  have keys : (antes.map fun p => (Chave.id p.id, f p)).map Prod.fst ++
      (depois.map fun p => (Chave.id p.id, g p)).map Prod.fst =
        (antes.map Payment.id ++ depois.map Payment.id).map Chave.id := by
    simp [Function.comp_def]
  have pares : parearPorId (antes.map f) (depois.map g) =
      ((antes.map Payment.id ++ depois.map Payment.id).map Chave.id).eraseDups.map fun c =>
        (arquivado c (antes.map fun p => (Chave.id p.id, f p)),
          arquivado c (depois.map fun p => (Chave.id p.id, g p))) := by
    simp only [parearPorId, comChave_map f_id, comChave_map g_id, keys]
  have picks : ∀ c ∈ ((antes.map Payment.id ++ depois.map Payment.id).map Chave.id).eraseDups,
      (decide ((linhaDoPar action (arquivado c (antes.map fun p => (Chave.id p.id, f p)),
        arquivado c (depois.map fun p => (Chave.id p.id, g p)))).paymentId = some i) = true ↔
          c = Chave.id i) := by
    intro c mem
    obtain ⟨j, j_mem, rfl⟩ := List.mem_map.mp (List.mem_eraseDups.mp mem)
    have alvo : (linhaDoPar action (arquivado (.id j) (antes.map fun p => (Chave.id p.id, f p)),
        arquivado (.id j) (depois.map fun p => (Chave.id p.id, g p)))).paymentId = some j := by
      simp only [linhaDoPar, arquivado_map f antes_nodup, arquivado_map g depois_nodup]
      by_cases there : j ∈ depois.map Payment.id
      · obtain ⟨p, p_mem, rfl⟩ := List.mem_map.mp there
        simp [linhaDe_eq_some depois_nodup p_mem, g_id]
      · obtain ⟨p, p_mem, rfl⟩ := List.mem_map.mp ((List.mem_append.mp j_mem).resolve_right there)
        simp [linhaDe_eq_some antes_nodup p_mem, linhaDe_eq_none there, f_id]
    simp [alvo]
  rw [pares, passosDe, List.map_map, List.filter_map]
  simp only [Function.comp_def]
  rw [filter_eq_singleton (nodup_eraseDups _) (Chave.id i) picks]
  by_cases mem : i ∈ antes.map Payment.id ++ depois.map Payment.id
  · rw [if_pos mem, if_pos (List.mem_eraseDups.mpr (List.mem_map_of_mem mem))]
    simp [Linha.passo, linhaDoPar, Retrato.valores, arquivado_map f antes_nodup,
      arquivado_map g depois_nodup]
  · rw [if_neg mem, if_neg]
    · rfl
    · intro there
      obtain ⟨j, j_mem, same⟩ := List.mem_map.mp (List.mem_eraseDups.mp there)
      obtain rfl : j = i := by simpa using same
      exact mem j_mem

/-- The line of a payment leads from the one snapshot to the other.  When nothing changed there is
no line, and the snapshots agree. -/
theorem chained_linhas (op : Operacao) {before after : Option (List Retrato)}
    {antes depois : List Payment} {f g : Payment → Retrato}
    (eq_antes : before.getD [] = antes.map f) (eq_depois : after.getD [] = depois.map g)
    (f_id : ∀ p, (f p).id = some p.id) (g_id : ∀ p, (g p).id = some p.id)
    (antes_nodup : (antes.map Payment.id).Nodup) (depois_nodup : (depois.map Payment.id).Nodup)
    {i : Id} (mem : i ∈ antes.map Payment.id ++ depois.map Payment.id) :
    Chained (Retrato.valores ((linhaDe antes i).map f))
      (passosDe i (Auditoria.linhas op before after))
      (Retrato.valores ((linhaDe depois i).map g)) := by
  unfold Auditoria.linhas
  split
  · rename_i same
    have equal : antes.map f = depois.map g := by
      cases before with
      | none => simp [nothingChanged] at same
      | some a =>
          cases after with
          | none => simp [nothingChanged] at same
          | some d =>
              have a_eq_d : a = d := by simpa [nothingChanged] using same
              rw [← eq_antes, ← eq_depois, a_eq_d]
    have filed := congrArg (fun rows => arquivado (.id i) (comChave 0 rows)) equal
    simp only [comChave_map f_id, comChave_map g_id, arquivado_map f antes_nodup,
      arquivado_map g depois_nodup] at filed
    simp [passosDe, filed]
  · rw [registrarNaTesouraria, eq_antes, eq_depois,
      passosDe_registrar op.action f_id g_id antes_nodup depois_nodup, if_pos mem]
    simp

/-- A payment in neither snapshot gets no line. -/
theorem passosDe_linhas_of_not_mem (op : Operacao) {before after : Option (List Retrato)}
    {antes depois : List Payment} {f g : Payment → Retrato}
    (eq_antes : before.getD [] = antes.map f) (eq_depois : after.getD [] = depois.map g)
    (f_id : ∀ p, (f p).id = some p.id) (g_id : ∀ p, (g p).id = some p.id)
    (antes_nodup : (antes.map Payment.id).Nodup) (depois_nodup : (depois.map Payment.id).Nodup)
    {i : Id} (absent : i ∉ antes.map Payment.id ++ depois.map Payment.id) :
    passosDe i (Auditoria.linhas op before after) = [] := by
  unfold Auditoria.linhas
  split
  · rfl
  · rw [registrarNaTesouraria, eq_antes, eq_depois,
      passosDe_registrar op.action f_id g_id antes_nodup depois_nodup, if_neg absent]

namespace Auditoria

/-! ### The rows of an operation -/

/-- What the trail tells of a row. -/
def chaveEValores (p : Payment) : Id × Valores := (p.id, valoresDe (some p))

theorem ids_of_chaveEValores {vistos enderecados : List Payment}
    (iguais : vistos.map chaveEValores = enderecados.map chaveEValores) :
    vistos.map Payment.id = enderecados.map Payment.id := by
  have ids := congrArg (List.map Prod.fst) iguais
  simpa [chaveEValores, Function.comp_def] using ids

theorem valoresDe_linhaDe {vistos enderecados : List Payment}
    (iguais : vistos.map chaveEValores = enderecados.map chaveEValores) (i : Id) :
    valoresDe (linhaDe vistos i) = valoresDe (linhaDe enderecados i) := by
  induction vistos generalizing enderecados with
  | nil =>
      obtain rfl : enderecados = [] := by simpa using iguais.symm
      rfl
  | cons p vistos ih =>
      cases enderecados with
      | nil => simp at iguais
      | cons q enderecados =>
          simp only [List.map_cons, List.cons.injEq] at iguais
          have head : p.id = q.id ∧ valoresDe (some p) = valoresDe (some q) := by
            simpa [chaveEValores] using iguais.1
          by_cases here : q.id = i
          · simp [linhaDe, head.1, here, head.2]
          · simpa [linhaDe, head.1, here] using ih iguais.2

theorem lookup_map (h : Payment → Option Payment) (rows : List Payment) (i : Id) :
    (rows.map fun p => (p.id, h p)).lookup i = (linhaDe rows i).map h := by
  induction rows with
  | nil => rfl
  | cons p rows ih =>
      by_cases here : p.id = i
      · simp [linhaDe, here]
      · have other : (i == p.id) = false := by simpa using fun same => here same.symm
        simpa [linhaDe, here, List.lookup_cons, other] using ih

theorem isSome_linhaDe {rows : List Payment} {i : Id} :
    (linhaDe rows i).isSome ↔ i ∈ rows.map Payment.id := by
  simp [linhaDe, List.find?_isSome]

@[simp] theorem valores_de (linha : Option Payment) :
    Retrato.valores (linha.map Retrato.de) = valoresDe linha := by
  cases linha <;> rfl

/-! ### One operation and its lines -/

/-- What the operation returns has the columns the trail needs. -/
def TrazValores : Selecao → Prop
  | .select c => c.id ∧ c.amount ∧ c.status
  | _ => True

/-- The snapshot after the operation can tell amount and status: a `select` has to name them, and
inside a transaction the data of an `updateMany` may not leave them `undefined`, and when it has an
operator the committed rows, `relidas`, must have them already. -/
def RetornoDizValores (autor : Option Transacao) (relidas enderecados : List Payment) :
    Operacao → Prop
  | .create _ selecao => TrazValores selecao
  | .update _ _ selecao => TrazValores selecao
  | .updateMany _ data => autor.isSome →
      if data.temOperador then
        relidas.map chaveEValores = (enderecados.map data.gravar).map chaveEValores
      else ∀ p ∈ enderecados, !data.amount.ehIndefinido ∧ !data.status.ehIndefinido
  | .delete _ | .deleteMany _ => True

/-- The lines tell of the rows written and of no other: each of those goes from the row it had to
the row it got. -/
def ContamAsEscritas (novas : List (Id × Option Payment)) (tinha : Id → Option Payment)
    (linhas : List Linha) : Prop :=
  ∀ i, match novas.lookup i with
    | none => passosDe i linhas = []
    | some linha => Chained (valoresDe (tinha i)) (passosDe i linhas) (valoresDe linha)

theorem contamAsEscritas_of_retratos (op : Operacao) (vistos depois : List Payment)
    {before after : Option (List Retrato)} {g : Payment → Retrato}
    {novas : List (Id × Option Payment)} {tinha : Id → Option Payment}
    (eq_antes : before.getD [] = vistos.map Retrato.de) (eq_depois : after.getD [] = depois.map g)
    (g_id : ∀ p, (g p).id = some p.id)
    (vistos_nodup : (vistos.map Payment.id).Nodup) (depois_nodup : (depois.map Payment.id).Nodup)
    (tocados : ∀ i, (novas.lookup i).isSome ↔ i ∈ vistos.map Payment.id ++ depois.map Payment.id)
    (inicio : ∀ i, (novas.lookup i).isSome → valoresDe (tinha i) = valoresDe (linhaDe vistos i))
    (fim : ∀ i linha, novas.lookup i = some linha →
      Retrato.valores ((linhaDe depois i).map g) = valoresDe linha) :
    ContamAsEscritas novas tinha (linhas op before after) := by
  have de_id : ∀ p, (Retrato.de p).id = some p.id := fun _ => rfl
  intro i
  cases found : novas.lookup i with
  | none =>
      apply passosDe_linhas_of_not_mem op eq_antes eq_depois de_id g_id vistos_nodup depois_nodup
      rw [← tocados, found]
      simp
  | some linha =>
      have some_i : (novas.lookup i).isSome := by simp [found]
      have chain := chained_linhas op eq_antes eq_depois de_id g_id vistos_nodup depois_nodup
        ((tocados i).mp some_i)
      rw [valores_de, ← inicio i some_i, fim i linha found] at chain
      exact chain

theorem recortar_id {selecao : Selecao} (traz : TrazValores selecao) (r : Retrato) :
    (selecao.recortar r).id = r.id := by
  cases selecao with
  | inteira => rfl
  | comRelacoes => rfl
  | select c => simp [Selecao.recortar, traz.1]

theorem valores_recortar {selecao : Selecao} (traz : TrazValores selecao) (linha : Option Payment)
    (h : Payment → Payment) :
    Retrato.valores (linha.map fun p => selecao.recortar (Retrato.de (h p))) =
      valoresDe (linha.map h) := by
  cases linha with
  | none => rfl
  | some p =>
      cases selecao with
      | inteira => rfl
      | comRelacoes => rfl
      | select c =>
          simp [Selecao.recortar, Retrato.valores, valoresDe, Retrato.de, traz.2.1, traz.2.2]

theorem valoresDe_gravar (d : DadosDaCobranca) {p q : Option Payment}
    (same : valoresDe p = valoresDe q) :
    valoresDe (p.map d.gravar) = valoresDe (q.map d.gravar) := by
  cases p <;> cases q <;> simp_all [valoresDe, DadosDaCobranca.gravar]

theorem valores_sobrepor {d : DadosDaCobranca} (sem_operador : d.temOperador = false)
    (amount : !d.amount.ehIndefinido) (status : !d.status.ehIndefinido) (linha : Option Payment) :
    Retrato.valores (linha.map fun p => d.sobrepor (Retrato.de p)) =
      valoresDe (linha.map d.gravar) := by
  have calcula : ∀ {α : Type} (e : Escrita α) (v : α), e.ehOperador = false → !e.ehIndefinido →
      e.sobrepor (some v) = some (e.gravar v) := by
    intro α e v
    cases e <;> simp [Escrita.ehOperador, Escrita.ehIndefinido, Escrita.sobrepor, Escrita.gravar]
  simp only [DadosDaCobranca.temOperador, Bool.or_eq_false_iff] at sem_operador
  cases linha with
  | none => rfl
  | some p =>
      simp [Retrato.valores, valoresDe, DadosDaCobranca.sobrepor, DadosDaCobranca.gravar,
        Retrato.de, calcula d.amount _ sem_operador.1.1.1.1.2 amount,
        calcula d.status _ sem_operador.1.1.1.2 status]

/-- The rows the root client finds under the ids it saw before. -/
def reler (proximoId : Id) (gravado : Tabela) (vistos : List Payment) : List Payment :=
  findMany proximoId gravado fun p => (vistos.map Payment.id).contains p.id

/-- The lines of an `updateMany`, after one read of the rows it saw. -/
theorem contamAsEscritas_updateMany {autor : Option Transacao} {filtro : Payment → Bool}
    {data : DadosDaCobranca} {proximoId : Id} {vistos enderecados : List Payment}
    (gravado : Tabela) (enderecados_nodup : (enderecados.map Payment.id).Nodup)
    (iguais : vistos.map chaveEValores = enderecados.map chaveEValores)
    (diz : RetornoDizValores autor (reler proximoId gravado vistos) enderecados
      (.updateMany filtro data))
    (relida : autor = none → reler proximoId gravado vistos = enderecados.map data.gravar) :
    ContamAsEscritas (escritas proximoId enderecados (.updateMany filtro data))
      (linhaDe enderecados)
      (linhas (.updateMany filtro data) (retratoAntes (.updateMany filtro data) vistos)
        (retratoDepois autor (.updateMany filtro data) proximoId vistos enderecados gravado)) := by
  have ids := ids_of_chaveEValores iguais
  have vistos_nodup : (vistos.map Payment.id).Nodup := ids ▸ enderecados_nodup
  have inicio : ∀ i, valoresDe (linhaDe enderecados i) = valoresDe (linhaDe vistos i) :=
    fun i => (valoresDe_linhaDe iguais i).symm
  have vazio : vistos = [] → reler proximoId gravado vistos = [] := by
    rintro rfl
    simp [reler, findMany]
  have lida_getD :
      (if vistos.isEmpty then none else some ((reler proximoId gravado vistos).map Retrato.de) :
        Option (List Retrato)).getD [] = (reler proximoId gravado vistos).map Retrato.de := by
    cases rows : vistos with
    | nil => simp [vazio rows, ← rows]
    | cons p rows => rfl
  have tocados : ∀ (depois : List Payment), depois.map Payment.id = vistos.map Payment.id → ∀ i,
      ((escritas proximoId enderecados (.updateMany filtro data)).lookup i).isSome ↔
        i ∈ vistos.map Payment.id ++ depois.map Payment.id := by
    intro depois same i
    rw [escritas, lookup_map fun p => some (data.gravar p), Option.isSome_map, isSome_linhaDe, same,
      ids]
    simp
  have escrita : ∀ i linha,
      (escritas proximoId enderecados (.updateMany filtro data)).lookup i = some linha →
        linha = (linhaDe enderecados i).map data.gravar := by
    intro i linha found
    rw [escritas, lookup_map fun p => some (data.gravar p)] at found
    obtain ⟨p, p_eq, rfl⟩ := Option.map_eq_some_iff.mp found
    rw [p_eq]
    rfl
  -- the rows as they were written, whichever way they are told
  have gravadas_ids : (enderecados.map data.gravar).map Payment.id = vistos.map Payment.id := by
    rw [ids, List.map_map]
    exact List.map_congr_left fun p _ => DadosDaCobranca.gravar_id data p
  have gravadas : ∀ i, linhaDe (enderecados.map data.gravar) i =
      (linhaDe enderecados i).map data.gravar := fun i => List.find?_map ..
  -- what is read back has the values that were written
  have relidas (told : (reler proximoId gravado vistos).map chaveEValores =
        (enderecados.map data.gravar).map chaveEValores)
      (after : (retratoDepois autor (.updateMany filtro data) proximoId vistos enderecados
        gravado).getD [] = (reler proximoId gravado vistos).map Retrato.de) :
      ContamAsEscritas (escritas proximoId enderecados (.updateMany filtro data))
        (linhaDe enderecados)
        (linhas (.updateMany filtro data) (retratoAntes (.updateMany filtro data) vistos)
          (retratoDepois autor (.updateMany filtro data) proximoId vistos enderecados
            gravado)) := by
    have same : (reler proximoId gravado vistos).map Payment.id = vistos.map Payment.id :=
      (ids_of_chaveEValores told).trans gravadas_ids
    refine contamAsEscritas_of_retratos _ vistos (reler proximoId gravado vistos)
      (g := Retrato.de) rfl after (fun _ => rfl) vistos_nodup (same ▸ vistos_nodup)
      (tocados _ same) (fun i _ => inicio i) fun i linha found => ?_
    rw [valores_de, valoresDe_linhaDe told i, gravadas i, ← escrita i linha found]
  cases autor with
  | none =>
      refine relidas (by rw [relida rfl]) ?_
      simp only [retratoDepois, Option.isSome_none, Bool.false_eq_true, if_false]
      exact lida_getD
  | some t =>
      have diz := diz rfl
      cases operador : data.temOperador with
      | true =>
          rw [if_pos operador] at diz
          refine relidas diz ?_
          simp only [retratoDepois, Option.isSome_some, if_true, applyUpdateData, operador]
          exact lida_getD
      | false =>
          rw [if_neg (by simp [operador])] at diz
          apply contamAsEscritas_of_retratos _ vistos vistos
            (g := fun p => data.sobrepor (Retrato.de p)) rfl _ (fun _ => rfl) vistos_nodup
            vistos_nodup (tocados vistos rfl) (fun i _ => inicio i)
          · intro i linha found
            have linha_eq := escrita i linha found
            obtain ⟨p, p_eq⟩ : ∃ p, linhaDe enderecados i = some p := by
              rw [escritas, lookup_map fun p => some (data.gravar p)] at found
              obtain ⟨p, p_eq, _⟩ := Option.map_eq_some_iff.mp found
              exact ⟨p, p_eq⟩
            have definidos := diz p (List.mem_of_find?_eq_some p_eq)
            rw [valores_sobrepor operador definidos.1 definidos.2, linha_eq]
            exact valoresDe_gravar data (inicio i).symm
          · simp [retratoDepois, applyUpdateData, operador, Function.comp_def]

/-- The lines of one operation whose addressed rows the root client saw with the same values. -/
theorem contamAsEscritas_operacao {autor : Option Transacao} {op : Operacao} {proximoId : Id}
    {vistos : List Payment} {visao : Tabela} (gravado : Tabela)
    (enderecados_nodup : ((alvos proximoId visao op).map Payment.id).Nodup)
    (iguais : vistos.map chaveEValores = (alvos proximoId visao op).map chaveEValores)
    (diz : RetornoDizValores autor (reler proximoId gravado vistos) (alvos proximoId visao op) op)
    (relida : ∀ filtro data, op = .updateMany filtro data → autor = none →
      reler proximoId gravado vistos = (alvos proximoId visao op).map data.gravar) :
    ContamAsEscritas (escritas proximoId (alvos proximoId visao op) op)
      (linhaDe (alvos proximoId visao op))
      (linhas op (retratoAntes op vistos)
        (retratoDepois autor op proximoId vistos (alvos proximoId visao op) gravado)) := by
  have ids := ids_of_chaveEValores iguais
  have vistos_nodup : (vistos.map Payment.id).Nodup := ids ▸ enderecados_nodup
  have inicio : ∀ i, valoresDe (linhaDe (alvos proximoId visao op) i) =
      valoresDe (linhaDe vistos i) :=
    fun i => (valoresDe_linhaDe iguais i).symm
  have antes_getD : ∀ rows : List Payment,
      (if rows.isEmpty then none else some (rows.map Retrato.de) : Option (List Retrato)).getD [] =
        rows.map Retrato.de := by
    intro rows
    cases rows <;> rfl
  cases op with
  | create data selecao =>
      obtain rfl : vistos = [] := by simpa [alvos] using iguais
      apply contamAsEscritas_of_retratos _ [] [{ data with id := proximoId }]
        (g := fun p => selecao.recortar (Retrato.de p)) rfl rfl
      · exact fun p => recortar_id diz _
      · exact List.nodup_nil
      · exact List.nodup_singleton _
      · intro i
        by_cases here : i = proximoId
        · simp [escritas, here]
        · have other : (i == proximoId) = false := by simpa using here
          simp [escritas, List.lookup_cons, other, here]
      · exact fun i _ => inicio i
      · intro i linha found
        by_cases here : i = proximoId
        · subst here
          obtain rfl : some { data with id := i } = linha := by simpa [escritas] using found
          have recortada := valores_recortar diz (some { data with id := i }) id
          simpa [linhaDe] using recortada
        · have other : (i == proximoId) = false := by simpa using here
          simp [escritas, List.lookup_cons, other] at found
  | update filtro data selecao =>
      apply contamAsEscritas_of_retratos _ vistos
        (alvos proximoId visao (.update filtro data selecao))
        (g := fun p => selecao.recortar (Retrato.de (data.gravar p))) (antes_getD _) rfl
      · exact fun p => recortar_id diz _
      · exact vistos_nodup
      · exact enderecados_nodup
      · intro i
        rw [escritas, lookup_map fun p => some (data.gravar p), Option.isSome_map,
          isSome_linhaDe, ids]
        simp
      · exact fun i _ => inicio i
      · intro i linha found
        rw [escritas, lookup_map fun p => some (data.gravar p)] at found
        rw [valores_recortar diz _ data.gravar]
        obtain ⟨p, p_eq, rfl⟩ := Option.map_eq_some_iff.mp found
        rw [p_eq]
        rfl
  | updateMany filtro data =>
      exact contamAsEscritas_updateMany gravado enderecados_nodup iguais diz
        (relida filtro data rfl)
  | delete filtro =>
      apply contamAsEscritas_of_retratos _ vistos []
        (g := Retrato.de) (antes_getD _) rfl (fun _ => rfl) vistos_nodup
        List.nodup_nil
      · intro i
        rw [escritas, lookup_map fun _ => none, Option.isSome_map, isSome_linhaDe, ids]
        simp
      · exact fun i _ => inicio i
      · intro i linha found
        rw [escritas, lookup_map fun _ => none] at found
        obtain ⟨p, p_eq, rfl⟩ := Option.map_eq_some_iff.mp found
        rfl
  | deleteMany filtro =>
      apply contamAsEscritas_of_retratos _ vistos []
        (g := Retrato.de) rfl rfl (fun _ => rfl) vistos_nodup List.nodup_nil
      · intro i
        rw [escritas, lookup_map fun _ => none, Option.isSome_map, isSome_linhaDe, ids]
        simp
      · exact fun i _ => inicio i
      · intro i linha found
        rw [escritas, lookup_map fun _ => none] at found
        obtain ⟨p, p_eq, rfl⟩ := Option.map_eq_some_iff.mp found
        rfl

/-! ### Tables -/

/-- A row stands under its own id, and ids come from the generator. -/
def BemChaveada (proximoId : Id) (tabela : Tabela) : Prop :=
  ∀ i p, tabela i = some p → p.id = i ∧ i < proximoId

theorem mem_findMany {proximoId : Id} {tabela : Tabela} (chaves : BemChaveada proximoId tabela)
    {filtro : Payment → Bool} {p : Payment} :
    p ∈ findMany proximoId tabela filtro ↔ tabela p.id = some p ∧ filtro p := by
  simp only [findMany, List.mem_filter, List.mem_filterMap, List.mem_range]
  constructor
  · rintro ⟨⟨i, _, found⟩, passes⟩
    exact ⟨(chaves i p found).1 ▸ found, passes⟩
  · rintro ⟨found, passes⟩
    exact ⟨⟨p.id, (chaves p.id p found).2, found⟩, passes⟩

theorem nodup_findMany {proximoId : Id} {tabela : Tabela} (chaves : BemChaveada proximoId tabela)
    (filtro : Payment → Bool) : ((findMany proximoId tabela filtro).map Payment.id).Nodup := by
  have all : (((List.range proximoId).filterMap tabela).map Payment.id).Nodup := by
    rw [List.map_filterMap]
    apply List.Nodup.filterMap _ List.nodup_range
    intro i j k k_i k_j
    obtain ⟨p, found, rfl⟩ := Option.map_eq_some_iff.mp k_i
    obtain ⟨q, found', same⟩ := Option.map_eq_some_iff.mp k_j
    exact (chaves i p found).1.symm.trans (same.symm.trans (chaves j q found').1)
  exact all.sublist (List.filter_sublist.map _)

theorem mem_alvos {proximoId : Id} {tabela : Tabela} (chaves : BemChaveada proximoId tabela)
    {op : Operacao} {p : Payment} (mem : p ∈ alvos proximoId tabela op) :
    tabela p.id = some p := by
  cases op with
  | create data selecao => simp [alvos] at mem
  | update filtro data selecao => exact ((mem_findMany chaves).mp (List.mem_of_mem_take mem)).1
  | delete filtro => exact ((mem_findMany chaves).mp (List.mem_of_mem_take mem)).1
  | updateMany filtro data => exact ((mem_findMany chaves).mp mem).1
  | deleteMany filtro => exact ((mem_findMany chaves).mp mem).1

theorem nodup_alvos {proximoId : Id} {tabela : Tabela} (chaves : BemChaveada proximoId tabela)
    (op : Operacao) : ((alvos proximoId tabela op).map Payment.id).Nodup := by
  cases op with
  | create data selecao => exact List.nodup_nil
  | update filtro data selecao =>
      exact (nodup_findMany chaves filtro).sublist ((List.take_sublist 1 _).map _)
  | delete filtro => exact (nodup_findMany chaves filtro).sublist ((List.take_sublist 1 _).map _)
  | updateMany filtro data => exact nodup_findMany chaves filtro
  | deleteMany filtro => exact nodup_findMany chaves filtro

/-- Reading back by id the rows found before, in a table where only they changed. -/
theorem findMany_reler {proximoId : Id} {tabela : Tabela} (tabela' : Tabela)
    (filtro : Payment → Bool) {h : Payment → Payment} (chaves : BemChaveada proximoId tabela)
    (keeps : ∀ p, (h p).id = p.id)
    (novas : ∀ p ∈ findMany proximoId tabela filtro, tabela' p.id = some (h p))
    (outras : ∀ i, i ∉ (findMany proximoId tabela filtro).map Payment.id → tabela' i = tabela i) :
    (findMany proximoId tabela' fun p =>
      ((findMany proximoId tabela filtro).map Payment.id).contains p.id) =
        (findMany proximoId tabela filtro).map h := by
  have byId : ∀ (f : Payment → Bool) (tab : Tabela), findMany proximoId tab f =
      (List.range proximoId).filterMap fun i => (tab i).filter f :=
    fun f tab => List.filter_filterMap
  have goal : ∀ ids : List Id, ids = (findMany proximoId tabela filtro).map Payment.id →
      (findMany proximoId tabela' fun p => ids.contains p.id) =
        (findMany proximoId tabela filtro).map h := by
    intro ids ids_eq
    rw [byId filtro, List.map_filterMap, byId]
    apply List.filterMap_congr
    intro i _
    by_cases mem : i ∈ ids
    · obtain ⟨p, p_mem, rfl⟩ := List.mem_map.mp (ids_eq ▸ mem)
      have ⟨found, passes⟩ := (mem_findMany chaves).mp p_mem
      simp [novas p p_mem, Option.filter_some, found, passes, keeps, mem]
    · rw [outras i (ids_eq ▸ mem)]
      cases found : tabela i with
      | none => rfl
      | some p =>
          have p_id := (chaves i p found).1
          have fails : filtro p = false := by
            cases passes : filtro p with
            | false => rfl
            | true =>
                refine absurd ?_ mem
                rw [ids_eq, ← p_id]
                exact List.mem_map_of_mem ((mem_findMany chaves).mpr ⟨by rw [p_id, found], passes⟩)
          simp [Option.filter_some, p_id, mem, fails]
  exact goal _ rfl

/-! ### The state of a run -/

/-- Rows are under their ids, a row has one writer at most, and only open transactions keep
rows. -/
structure Coerente (s : Estado) : Prop where
  gravado : BemChaveada s.proximoId s.gravado
  aberta : ∀ t i, (s.rascunho t i).isSome → t ∈ s.abertas
  rascunho : ∀ t i linha, s.rascunho t i = some linha →
    i < s.proximoId ∧ ∀ p, linha = some p → p.id = i
  trava : ∀ t u i, (s.rascunho t i).isSome → (s.rascunho u i).isSome → t = u
  numeros : ∀ t ∈ s.abertas, t < s.proximaTransacao
  desfeitas : ∀ t ∈ s.desfeitas, t < s.proximaTransacao ∧ t ∉ s.abertas

/-- The row of an id when every open transaction is counted: what its writer keeps, or what is
committed. -/
def EhAtual (s : Estado) (i : Id) (linha : Option Payment) : Prop :=
  (∃ t, s.rascunho t i = some linha) ∨ (∀ t, s.rascunho t i = none) ∧ s.gravado i = linha

theorem Coerente.visao {s : Estado} (c : Coerente s) (autor : Option Transacao) :
    BemChaveada s.proximoId (s.visao autor) := by
  intro i p found
  cases autor with
  | none => exact c.gravado i p found
  | some t =>
      simp only [Estado.visao] at found
      cases mine : s.rascunho t i with
      | none => exact c.gravado i p (by simpa [mine] using found)
      | some linha =>
          have row : linha = some p := by simpa [mine] using found
          have ⟨below, key⟩ := c.rascunho t i linha mine
          exact ⟨key p row, below⟩

/-- Whoever may write a row sees its current version. -/
theorem Coerente.ehAtual_visao {s : Estado} (c : Coerente s) {autor : Option Transacao} {i : Id}
    (livre : s.livre autor i) : EhAtual s i (s.visao autor i) := by
  have outros : ∀ u, some u ≠ autor → s.rascunho u i = none := by
    intro u other
    cases keeps : s.rascunho u i with
    | none => rfl
    | some linha =>
        have open_u := c.aberta u i (by simp [keeps])
        have free := List.all_eq_true.mp livre u open_u
        simp [other, keeps] at free
  cases autor with
  | none => exact .inr ⟨fun u => outros u (by simp), rfl⟩
  | some t =>
      cases mine : s.rascunho t i with
      | some linha => exact .inl ⟨t, by simp [Estado.visao, mine]⟩
      | none =>
          refine .inr ⟨fun u => ?_, by simp [Estado.visao, mine]⟩
          by_cases same : u = t
          · rw [same, mine]
          · exact outros u (by simpa using same)

/-- The rows an accepted operation writes: each is under its id, each was the current version as its
author sees it, and nobody else keeps it. -/
theorem Coerente.escritas {s : Estado} (c : Coerente s) {autor : Option Transacao} {op : Operacao}
    (aceita : s.aceita autor op) (i : Id) (linha : Option Payment)
    (nova : (escritas s.proximoId (alvos s.proximoId (s.visao autor) op) op).lookup i =
      some linha) :
    i < proximoIdDepois s.proximoId op ∧ (∀ p, linha = some p → p.id = i) ∧
      EhAtual s i (linhaDe (alvos s.proximoId (s.visao autor) op) i) ∧
      ∀ u, some u ≠ autor → s.rascunho u i = none := by
  simp only [Estado.aceita, Estado.destravada, Bool.and_eq_true, List.all_eq_true] at aceita
  have addressed : ∀ (h : Payment → Option Payment),
      ((alvos s.proximoId (s.visao autor) op).map fun p => (p.id, h p)).lookup i = some linha →
        (∀ p q, h p = some q → q.id = p.id) →
        i < s.proximoId ∧ (∀ p, linha = some p → p.id = i) ∧
          EhAtual s i (linhaDe (alvos s.proximoId (s.visao autor) op) i) ∧
          ∀ u, some u ≠ autor → s.rascunho u i = none := by
    intro h found keeps
    rw [lookup_map] at found
    obtain ⟨p, p_eq, rfl⟩ := Option.map_eq_some_iff.mp found
    have mem := List.mem_of_find?_eq_some p_eq
    obtain rfl : p.id = i := by simpa using List.find?_some p_eq
    have seen := mem_alvos (c.visao autor) mem
    have livre := aceita.2 p mem
    refine ⟨((c.visao autor) p.id p seen).2, fun q => keeps p q, ?_, ?_⟩
    · rw [p_eq, ← seen]
      exact c.ehAtual_visao livre
    · intro u other
      cases kept : s.rascunho u p.id with
      | none => rfl
      | some linha =>
          have free := List.all_eq_true.mp livre u (c.aberta u p.id (by simp [kept]))
          simp [other, kept] at free
  cases op with
  | create data selecao =>
      by_cases here : i = s.proximoId
      · subst here
        have kept : ∀ u, s.rascunho u s.proximoId = none := by
          intro u
          cases found : s.rascunho u s.proximoId with
          | none => rfl
          | some r => exact absurd (c.rascunho u _ r found).1 (lt_irrefl _)
        have stored : s.gravado s.proximoId = none := by
          cases found : s.gravado s.proximoId with
          | none => rfl
          | some r => exact absurd (c.gravado _ r found).2 (lt_irrefl _)
        obtain rfl : some { data with id := s.proximoId } = linha := by
          simpa [Auditoria.escritas] using nova
        refine ⟨Nat.lt_succ_self _, ?_, .inr ⟨kept, stored⟩, fun u _ => kept u⟩
        intro p row
        rw [← Option.some.inj row]
      · have other : (i == s.proximoId) = false := by simpa using here
        simp [Auditoria.escritas, List.lookup_cons, other] at nova
  | update filtro data selecao =>
      exact addressed (fun p => some (data.gravar p)) nova fun p q row => by
        rw [← Option.some.inj row, DadosDaCobranca.gravar_id]
  | updateMany filtro data =>
      exact addressed (fun p => some (data.gravar p)) nova fun p q row => by
        rw [← Option.some.inj row, DadosDaCobranca.gravar_id]
  | delete filtro => exact addressed (fun _ => none) nova fun p q row => by cases row
  | deleteMany filtro => exact addressed (fun _ => none) nova fun p q row => by cases row

/-! ### What the run must avoid -/

/-- The lines of each payment chain from nothing to a last value, which is the stored one when no
transaction is open; and no line is of a transaction that was rolled back. -/
structure TrilhaVerdadeira (s : Estado) : Prop where
  encadeia : ∀ i, ∃ fim, Chained (none, none) (passosDe i (s.log.map Registro.linha)) fim ∧
    (s.abertas = [] → fim = valoresDe (s.gravado i))
  semDesfeitas : ∀ r ∈ s.log, ∀ t ∈ s.desfeitas, r.transacao ≠ some t

/-- When an operation runs, the root client saw the rows it addresses with the amounts and statuses
they have, what comes back tells the new ones, and a transaction that is rolled back wrote no
payment. -/
def Fiel (s : Estado) : Passo → Prop
  | .executar k => ∀ c, s.chamadas[k]? = some c → s.aceita c.autor c.op →
      c.vistos.map chaveEValores =
          (alvos s.proximoId (s.visao c.autor) c.op).map chaveEValores ∧
        RetornoDizValores c.autor (reler s.proximoId s.gravado c.vistos)
          (alvos s.proximoId (s.visao c.autor) c.op) c.op
  | .desfazer t => ∀ i, s.rascunho t i = none
  | _ => True

/-- What holds in the middle of a run: the trail leads to the current version of every payment, and
a line comes from a transaction that was not rolled back and that keeps some row while it is
open. -/
structure Trilha (s : Estado) : Prop extends Coerente s where
  atual : ∀ i linha, EhAtual s i linha →
    Chained (none, none) (passosDe i (s.log.map Registro.linha)) (valoresDe linha)
  autores : ∀ r ∈ s.log, ∀ t, r.transacao = some t →
    t < s.proximaTransacao ∧ t ∉ s.desfeitas ∧
      (t ∈ s.abertas → ∃ i, (s.rascunho t i).isSome)

theorem trilha_vazio : Trilha Estado.vazio where
  gravado := by simp [BemChaveada, Estado.vazio]
  aberta := by simp [Estado.vazio]
  rascunho := by simp [Estado.vazio]
  trava := by simp [Estado.vazio]
  numeros := by simp [Estado.vazio]
  desfeitas := by simp [Estado.vazio]
  atual := by
    intro i linha now
    rcases now with ⟨t, kept⟩ | ⟨_, stored⟩
    · simp [Estado.vazio] at kept
    · rw [← stored]
      rfl
  autores := by simp [Estado.vazio]

theorem Trilha.verdadeira {s : Estado} (trilha : Trilha s) : TrilhaVerdadeira s where
  encadeia := by
    intro i
    by_cases kept : ∃ t, (s.rascunho t i).isSome
    · obtain ⟨t, kept⟩ := kept
      obtain ⟨linha, found⟩ := Option.isSome_iff_exists.mp kept
      refine ⟨_, trilha.atual i linha (.inl ⟨t, found⟩), ?_⟩
      intro none_open
      have open_t := trilha.aberta t i kept
      simp [none_open] at open_t
    · have free : ∀ t, s.rascunho t i = none := by
        intro t
        simpa using fun some_t => kept ⟨t, some_t⟩
      exact ⟨_, trilha.atual i _ (.inr ⟨free, rfl⟩), fun _ => rfl⟩
  semDesfeitas := by
    intro r mem t undone of_t
    exact (trilha.autores r mem t of_t).2.1 undone

/-! ### One step -/

@[simp] theorem gravar_abertas (s : Estado) (autor : Option Transacao)
    (novas : List (Id × Option Payment)) : (s.gravar autor novas).abertas = s.abertas := by
  cases autor <;> rfl

@[simp] theorem gravar_proximaTransacao (s : Estado) (autor : Option Transacao)
    (novas : List (Id × Option Payment)) :
    (s.gravar autor novas).proximaTransacao = s.proximaTransacao := by
  cases autor <;> rfl

@[simp] theorem gravar_desfeitas (s : Estado) (autor : Option Transacao)
    (novas : List (Id × Option Payment)) : (s.gravar autor novas).desfeitas = s.desfeitas := by
  cases autor <;> rfl

/-- A row written by whoever holds its lock is the current version; the others stay as they were. -/
theorem ehAtual_gravar {s : Estado} {autor : Option Transacao} {novas : List (Id × Option Payment)}
    {i : Id} {linha : Option Payment}
    (livre : (novas.lookup i).isSome → ∀ u, some u ≠ autor → s.rascunho u i = none)
    (now : EhAtual (s.gravar autor novas) i linha) :
    match novas.lookup i with
    | some nova => linha = nova
    | none => EhAtual s i linha := by
  cases found : novas.lookup i with
  | none =>
      cases autor with
      | none => simpa [EhAtual, Estado.gravar, found] using now
      | some t =>
          have same : ∀ u, (if u = t then s.rascunho t i else s.rascunho u i) = s.rascunho u i := by
            intro u
            split <;> simp_all
          simpa [EhAtual, Estado.gravar, found, same] using now
  | some nova =>
      have livre := livre (by simp [found])
      cases autor with
      | none =>
          rcases now with ⟨u, kept⟩ | ⟨_, stored⟩
          · have free := livre u (by simp)
            simp [Estado.gravar, free] at kept
          · simpa [Estado.gravar, found] using stored.symm
      | some t =>
          rcases now with ⟨u, kept⟩ | ⟨none_kept, _⟩
          · by_cases same : u = t
            · simpa [Estado.gravar, same, found] using kept.symm
            · have free := livre u (by simpa using same)
              simp [Estado.gravar, same, free] at kept
          · have kept := none_kept t
            simp [Estado.gravar, found] at kept

/-- What the root client reads back after an `updateMany` of its own. -/
theorem Coerente.relida {s : Estado} (c : Coerente s) {vistos : List Payment}
    (filtro : Payment → Bool) (data : DadosDaCobranca)
    (ids : vistos.map Payment.id = (findMany s.proximoId s.gravado filtro).map Payment.id) :
    reler s.proximoId
      (s.gravar none (Auditoria.escritas s.proximoId
        (findMany s.proximoId s.gravado filtro) (.updateMany filtro data))).gravado vistos =
      (findMany s.proximoId s.gravado filtro).map data.gravar := by
  have lookup : ∀ i, ((Auditoria.escritas s.proximoId (findMany s.proximoId s.gravado filtro)
      (.updateMany filtro data)).lookup i) =
        (linhaDe (findMany s.proximoId s.gravado filtro) i).map fun p =>
          some (data.gravar p) :=
    lookup_map (fun p => some (data.gravar p)) _
  rw [reler, ids]
  apply findMany_reler _ filtro c.gravado (DadosDaCobranca.gravar_id data)
  · intro p mem
    simp [Estado.gravar, lookup, linhaDe_eq_some (nodup_findMany c.gravado filtro) mem]
  · intro i absent
    simp [Estado.gravar, lookup, linhaDe_eq_none absent]

/-- An operation that addresses no payment leaves no line. -/
theorem linhas_of_nada {s : Estado} {autor : Option Transacao} {op : Operacao}
    {vistos : List Payment} (gravado : Tabela) (aceita : s.aceita autor op)
    (iguais : vistos.map chaveEValores =
      (alvos s.proximoId (s.visao autor) op).map chaveEValores)
    (nada : ∀ i, (Auditoria.escritas s.proximoId (alvos s.proximoId (s.visao autor) op)
      op).lookup i = none) :
    linhas op (retratoAntes op vistos)
      (retratoDepois autor op s.proximoId vistos (alvos s.proximoId (s.visao autor) op) gravado) =
        [] := by
  have empty : ∀ (h : Payment → Option Payment),
      (∀ i, ((alvos s.proximoId (s.visao autor) op).map fun p => (p.id, h p)).lookup i = none) →
        alvos s.proximoId (s.visao autor) op = [] ∧ vistos = [] := by
    intro h none_found
    have enderecados : alvos s.proximoId (s.visao autor) op = [] := by
      cases rows : alvos s.proximoId (s.visao autor) op with
      | nil => rfl
      | cons p rows' =>
          have found := none_found p.id
          simp [rows] at found
    exact ⟨enderecados, by simpa [enderecados] using iguais⟩
  cases op with
  | create data selecao =>
      have found := nada s.proximoId
      simp [Auditoria.escritas] at found
  | update filtro data selecao =>
      have ⟨enderecados, _⟩ := empty _ nada
      simp [Estado.aceita, recusada, enderecados] at aceita
  | delete filtro =>
      have ⟨enderecados, _⟩ := empty _ nada
      simp [Estado.aceita, recusada, enderecados] at aceita
  | updateMany filtro data =>
      have ⟨enderecados, nenhum⟩ := empty _ nada
      rw [enderecados, nenhum]
      cases autor with
      | none => rfl
      | some t =>
          cases operador : data.temOperador <;>
            simp [linhas, retratoAntes, retratoDepois, applyUpdateData, operador, nothingChanged,
              registrarNaTesouraria, parearPorId, comChave]
  | deleteMany filtro =>
      have ⟨enderecados, nenhum⟩ := empty _ nada
      rw [enderecados, nenhum]
      rfl

theorem Coerente.gravar {s : Estado} (c : Coerente s) {autor : Option Transacao}
    {novas : List (Id × Option Payment)} {proximoId : Id} {chamadas : List Chamada}
    (aberta : ∀ t, autor = some t → t ∈ s.abertas) (segue : s.proximoId ≤ proximoId)
    (chaves : ∀ i linha, novas.lookup i = some linha → i < proximoId ∧ ∀ p, linha = some p →
      p.id = i)
    (livre : ∀ i, (novas.lookup i).isSome → ∀ u, some u ≠ autor → s.rascunho u i = none)
    (log : List Registro) :
    Coerente { s.gravar autor novas with
      proximoId := proximoId, chamadas := chamadas, log := log } := by
  have gravado : BemChaveada proximoId (s.gravar autor novas).gravado := by
    intro i p found
    cases autor with
    | some t =>
        have ⟨key, below⟩ := c.gravado i p found
        exact ⟨key, below.trans_le segue⟩
    | none =>
        cases nova : novas.lookup i with
        | none =>
            have ⟨key, below⟩ := c.gravado i p (by simpa [Estado.gravar, nova] using found)
            exact ⟨key, below.trans_le segue⟩
        | some linha =>
            have row : linha = some p := by simpa [Estado.gravar, nova] using found
            have ⟨below, key⟩ := chaves i linha nova
            exact ⟨key p row, below⟩
  have rascunho : ∀ t i linha, (s.gravar autor novas).rascunho t i = some linha →
      s.rascunho t i = some linha ∨ autor = some t ∧ novas.lookup i = some linha := by
    intro t i linha found
    cases autor with
    | none => exact .inl found
    | some u =>
        by_cases same : t = u
        · subst same
          cases nova : novas.lookup i <;> simp_all [Estado.gravar]
        · exact .inl (by simpa [Estado.gravar, same] using found)
  have mantem : ∀ t i, ((s.gravar autor novas).rascunho t i).isSome →
      (s.rascunho t i).isSome ∨ autor = some t ∧ (novas.lookup i).isSome := by
    intro t i some_i
    obtain ⟨linha, found⟩ := Option.isSome_iff_exists.mp some_i
    rcases rascunho t i linha found with old | ⟨mine, nova⟩
    · exact .inl (by simp [old])
    · exact .inr ⟨mine, by simp [nova]⟩
  constructor
  case gravado => exact gravado
  case aberta =>
    intro t i some_i
    simp only [gravar_abertas]
    rcases mantem t i some_i with old | ⟨mine, _⟩
    · exact c.aberta t i old
    · exact aberta t mine
  case rascunho =>
    intro t i linha found
    rcases rascunho t i linha found with old | ⟨_, nova⟩
    · have ⟨below, key⟩ := c.rascunho t i linha old
      exact ⟨below.trans_le segue, key⟩
    · exact chaves i linha nova
  case trava =>
    intro t u i some_t some_u
    rcases mantem t i some_t with old | ⟨mine, nova⟩ <;>
      rcases mantem u i some_u with old' | ⟨mine', nova'⟩
    · exact c.trava t u i old old'
    · by_contra other
      have free := livre i nova' t (by rw [mine']; simpa using other)
      simp [free] at old
    · by_contra other
      have free := livre i nova u (by rw [mine]; simpa using fun same => other same.symm)
      simp [free] at old'
    · exact Option.some.inj (mine.symm.trans mine')
  case numeros => simpa using c.numeros
  case desfeitas => simpa using c.desfeitas

theorem Trilha.operar {s : Estado} (trilha : Trilha s) {chamada : Chamada} (k : Nat)
    (aceita : s.aceita chamada.autor chamada.op)
    (iguais : chamada.vistos.map chaveEValores =
      (alvos s.proximoId (s.visao chamada.autor) chamada.op).map chaveEValores)
    (diz : RetornoDizValores chamada.autor (reler s.proximoId s.gravado chamada.vistos)
      (alvos s.proximoId (s.visao chamada.autor) chamada.op) chamada.op) :
    Trilha ((operar s chamada).sair k) := by
  obtain ⟨autor, op, vistos⟩ := chamada
  dsimp only at aceita iguais diz
  have c := trilha.toCoerente
  have escreve := c.escritas aceita
  -- what the root client reads back after an operation of a transaction was there before it
  have told : RetornoDizValores autor
      (reler s.proximoId (s.gravar autor (Auditoria.escritas s.proximoId
        (alvos s.proximoId (s.visao autor) op) op)).gravado vistos)
      (alvos s.proximoId (s.visao autor) op) op := by
    cases autor with
    | some t => exact diz
    | none =>
        cases op with
        | updateMany filtro data => exact nofun
        | create | update | delete | deleteMany => exact diz
  have contam := contamAsEscritas_operacao (s.gravar autor (Auditoria.escritas s.proximoId
      (alvos s.proximoId (s.visao autor) op) op)).gravado
    (nodup_alvos (c.visao autor) op) iguais told
    (by
      rintro filtro data rfl rfl
      exact c.relida filtro data (ids_of_chaveEValores iguais))
  have nada := linhas_of_nada (s.gravar autor (Auditoria.escritas s.proximoId
    (alvos s.proximoId (s.visao autor) op) op)).gravado aceita iguais
  have livre : ∀ i, ((Auditoria.escritas s.proximoId (alvos s.proximoId (s.visao autor) op)
      op).lookup i).isSome → ∀ u, some u ≠ autor → s.rascunho u i = none := by
    intro i some_i
    obtain ⟨linha, found⟩ := Option.isSome_iff_exists.mp some_i
    exact (escreve i linha found).2.2.2
  have aberta : ∀ t, autor = some t → t ∈ s.abertas := by
    rintro t rfl
    simp [Estado.aceita] at aceita
    exact aceita.1.1
  have segue : s.proximoId ≤ proximoIdDepois s.proximoId op := by
    cases op <;> simp [proximoIdDepois]
  simp only [Auditoria.operar, Estado.sair]
  generalize Auditoria.escritas s.proximoId (alvos s.proximoId (s.visao autor) op) op = novas at *
  generalize linhas op _ _ = novasLinhas at *
  have log : (s.log ++ novasLinhas.map fun linha => (⟨autor, linha⟩ : Registro)).map
      Registro.linha = s.log.map Registro.linha ++ novasLinhas := by
    simp [Function.comp_def]
  constructor
  case toCoerente =>
    exact c.gravar aberta segue (fun i linha found => ⟨(escreve i linha found).1,
      (escreve i linha found).2.1⟩) livre _
  case atual =>
    intro i linha now
    have now : EhAtual (s.gravar autor novas) i linha := now
    have before := ehAtual_gravar (livre i) now
    have line := contam i
    simp only [log, passosDe_append]
    cases found : novas.lookup i with
    | none =>
        rw [found] at before line
        rw [line, List.append_nil]
        exact trilha.atual i linha before
    | some nova =>
        rw [found] at before line
        obtain rfl : linha = nova := before
        exact (trilha.atual i _ (escreve i linha found).2.2.1).append line
  case autores =>
    intro r mem t of_t
    simp only [gravar_proximaTransacao, gravar_desfeitas, gravar_abertas]
    rcases List.mem_append.mp mem with old | new
    · have ⟨below, kept, alive⟩ := trilha.autores r old t of_t
      refine ⟨below, kept, fun open_t => ?_⟩
      obtain ⟨i, some_i⟩ := alive open_t
      refine ⟨i, ?_⟩
      cases autor with
      | none => exact some_i
      | some u =>
          by_cases same : t = u
          · subst same
            simp [Estado.gravar, some_i]
          · simpa [Estado.gravar, same] using some_i
    · obtain ⟨linha, line_mem, rfl⟩ := List.mem_map.mp new
      obtain rfl : autor = some t := of_t
      have open_t := aberta t rfl
      refine ⟨c.numeros t open_t, fun undone => (c.desfeitas t undone).2 open_t, fun _ => ?_⟩
      by_contra none_kept
      have empty : novasLinhas = [] := by
        apply nada
        intro i
        cases found : novas.lookup i with
        | none => rfl
        | some nova => exact absurd ⟨i, by simp [Estado.gravar, found]⟩ none_kept
      simp [empty] at line_mem

/-! ### Begin, commit and rollback -/

/-- What an ended transaction leaves: nobody keeps its rows, and the others keep theirs. -/
theorem encerrar_rascunho_eq_some {s : Estado} {t u : Transacao} {i : Id} {linha : Option Payment} :
    (s.encerrar t).rascunho u i = some linha ↔ u ≠ t ∧ s.rascunho u i = some linha := by
  simp [Estado.encerrar]

theorem encerrar_isSome {s : Estado} {t u : Transacao} {i : Id} :
    ((s.encerrar t).rascunho u i).isSome ↔ u ≠ t ∧ (s.rascunho u i).isSome := by
  simp only [Option.isSome_iff_exists, encerrar_rascunho_eq_some, exists_and_left]

theorem Coerente.encerrar {s : Estado} (c : Coerente s) (t : Transacao) {gravado : Tabela}
    (chaves : BemChaveada s.proximoId gravado) :
    Coerente { s.encerrar t with gravado := gravado } where
  gravado := chaves
  aberta := by
    intro u i some_i
    have ⟨other, old⟩ := encerrar_isSome.mp some_i
    simpa [Estado.encerrar, other] using c.aberta u i old
  rascunho := fun u i linha found => c.rascunho u i linha (encerrar_rascunho_eq_some.mp found).2
  trava := fun u v i some_u some_v =>
    c.trava u v i (encerrar_isSome.mp some_u).2 (encerrar_isSome.mp some_v).2
  numeros := fun u mem => c.numeros u (List.mem_filter.mp mem).1
  desfeitas := fun u mem =>
    ⟨(c.desfeitas u mem).1, fun still => (c.desfeitas u mem).2 (List.mem_filter.mp still).1⟩

theorem Trilha.abrir {s : Estado} (trilha : Trilha s) : Trilha (step s .abrir) where
  gravado := trilha.gravado
  aberta := fun t i some_i => List.mem_cons_of_mem _ (trilha.aberta t i some_i)
  rascunho := trilha.rascunho
  trava := trilha.trava
  numeros := by
    intro t mem
    rcases List.mem_cons.mp mem with rfl | old
    · exact Nat.lt_succ_self _
    · exact (trilha.numeros t old).trans (Nat.lt_succ_self _)
  desfeitas := by
    intro t undone
    have ⟨below, closed⟩ := trilha.desfeitas t undone
    refine ⟨below.trans (Nat.lt_succ_self _), fun mem => ?_⟩
    rcases List.mem_cons.mp mem with rfl | old
    · exact lt_irrefl _ below
    · exact closed old
  atual := trilha.atual
  autores := by
    intro r mem t of_t
    have ⟨below, kept, alive⟩ := trilha.autores r mem t of_t
    refine ⟨below.trans (Nat.lt_succ_self _), kept, fun open_t => ?_⟩
    rcases List.mem_cons.mp open_t with rfl | old
    · exact absurd below (lt_irrefl _)
    · exact alive old

theorem Trilha.confirmar {s : Estado} (trilha : Trilha s) {t : Transacao} (open_t : t ∈ s.abertas) :
    Trilha (step s (.confirmar t)) := by
  have after : step s (.confirmar t) = { s.encerrar t with gravado := s.visao (some t) } := by
    simp [step, open_t]
  rw [after]
  have c := trilha.toCoerente
  constructor
  case toCoerente => exact c.encerrar t (c.visao (some t))
  case atual =>
    intro i linha now
    apply trilha.atual i linha
    rcases now with ⟨u, kept⟩ | ⟨none_kept, stored⟩
    · exact .inl ⟨u, (encerrar_rascunho_eq_some.mp kept).2⟩
    · cases mine : s.rascunho t i with
      | some nova =>
          have row : nova = linha := by simpa [Estado.visao, mine] using stored
          exact .inl ⟨t, row ▸ mine⟩
      | none =>
          refine .inr ⟨fun u => ?_, by simpa [Estado.visao, mine] using stored⟩
          by_cases same : u = t
          · rw [same, mine]
          · simpa [Estado.encerrar, same] using none_kept u
  case autores =>
    intro r mem u of_u
    have ⟨below, kept, alive⟩ := trilha.autores r mem u of_u
    refine ⟨below, kept, fun still => ?_⟩
    have ⟨old, other⟩ := List.mem_filter.mp still
    obtain ⟨i, some_i⟩ := alive old
    exact ⟨i, encerrar_isSome.mpr ⟨by simpa using other, some_i⟩⟩

theorem Trilha.desfazer {s : Estado} (trilha : Trilha s) {t : Transacao} (open_t : t ∈ s.abertas)
    (nada : ∀ i, s.rascunho t i = none) : Trilha (step s (.desfazer t)) := by
  have after : step s (.desfazer t) =
      { { s.encerrar t with gravado := s.gravado } with desfeitas := t :: s.desfeitas } := by
    simp [step, open_t, Estado.encerrar]
  have same : (s.encerrar t).rascunho = s.rascunho := by
    funext u i
    by_cases here : u = t
    · simp [Estado.encerrar, here, nada i]
    · simp [Estado.encerrar, here]
  rw [after]
  have c := trilha.toCoerente.encerrar t trilha.gravado
  constructor
  case toCoerente =>
    refine ⟨c.gravado, c.aberta, c.rascunho, c.trava, c.numeros, ?_⟩
    intro u undone
    rcases List.mem_cons.mp undone with rfl | old
    · exact ⟨trilha.numeros u open_t, by simp [Estado.encerrar]⟩
    · exact c.desfeitas u old
  case atual =>
    intro i linha now
    apply trilha.atual i linha
    simpa [EhAtual, same] using now
  case autores =>
    intro r mem u of_u
    have ⟨below, kept, alive⟩ := trilha.autores r mem u of_u
    have other : u ≠ t := by
      rintro rfl
      obtain ⟨i, some_i⟩ := alive open_t
      simp [nada i] at some_i
    refine ⟨below, by simpa [other] using kept, fun still => ?_⟩
    obtain ⟨i, some_i⟩ := alive (List.mem_filter.mp still).1
    exact ⟨i, by simpa [same] using some_i⟩

/-- The law does not read the calls. -/
theorem Trilha.sair {s : Estado} (trilha : Trilha s) (k : Nat) : Trilha (s.sair k) :=
  ⟨⟨trilha.gravado, trilha.aberta, trilha.rascunho, trilha.trava, trilha.numeros,
    trilha.desfeitas⟩, trilha.atual, trilha.autores⟩

theorem Trilha.step {s : Estado} (trilha : Trilha s) {passo : Passo} (fiel : Fiel s passo) :
    Trilha (Auditoria.step s passo) := by
  cases passo with
  | abrir => exact trilha.abrir
  | ler autor op => exact ⟨⟨trilha.gravado, trilha.aberta, trilha.rascunho, trilha.trava,
      trilha.numeros, trilha.desfeitas⟩, trilha.atual, trilha.autores⟩
  | executar k =>
      simp only [Auditoria.step, executar]
      split
      · exact trilha
      · rename_i c found
        split
        · rename_i aceita
          exact trilha.operar k aceita (fiel c found aceita).1 (fiel c found aceita).2
        · split
          · exact trilha.sair k
          · exact trilha
  | confirmar t =>
      by_cases open_t : t ∈ s.abertas
      · exact trilha.confirmar open_t
      · simpa [Auditoria.step, open_t] using trilha
  | desfazer t =>
      by_cases open_t : t ∈ s.abertas
      · exact trilha.desfazer open_t fiel
      · simpa [Auditoria.step, open_t] using trilha

def inscricao : Payment where
  id := 0
  userId := some 1
  eventId := some 2
  roleRegistrationId := some 3
  amount := 50
  status := .waiting
  method := .other
  receivedFrom := .pending
  payload := none
  createdAt := 0
  productItems := []
  checkouts := []

/-- The update of `comprarProdutos` on a ticket that waits for payment. -/
def juntarProduto (selecao : Selecao) : Operacao :=
  .update (fun p => p.id = 0) { amount := .valor 80 } selecao

def compraJunto (selecao : Selecao) : List Passo :=
  [.ler none (.create inscricao .inteira), .executar 0, .abrir,
    .ler (some 0) (juntarProduto selecao), .executar 0, .confirmar 0]

/-- A payment that comes in while the purchase is open waits for it, and its line tells of what was
there before both. -/
example : passosDe 0 ((runFrom Auditoria.step Estado.vazio
    ([.ler none (.create inscricao .inteira), .executar 0, .abrir,
      .ler (some 0) (juntarProduto .inteira),
      .executar 0, .ler none (.update (fun p => p.id = 0) { status := .valor .paid } .inteira),
      .executar 0, .confirmar 0, .executar 0] : List Passo)).log.map Registro.linha) =
    [((none, none), (some 50, some .waiting)), ((some 50, some .waiting), (some 80, some .waiting)),
      ((some 50, some .waiting), (some 80, some .paid))] := by
  decide +kernel

end Auditoria

end IccvBackend
