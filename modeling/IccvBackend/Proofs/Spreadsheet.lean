/-
Module: IccvBackend.Proofs.Spreadsheet
Purpose: The import of a spreadsheet of tithes adds up month by month, and a second one changes
  nothing.
Trusted boundary: none
Main exports: LivroCaixa.importado, LivroCaixa.somaDoMes, LivroCaixa.Importou, importou_planilha
-/
import IccvBackend.Proofs.SpreadsheetReading
import IccvBackend.Proofs.RowPerson

namespace IccvBackend

open Lib

/-- `normalizar`, of a text. -/
def Planilha.normalizarNome (unicode : Unicode) (nome : String) : String :=
  String.ofList (Planilha.normalizar unicode nome.toList)

section Planilha

variable {normalizar : String → String} {churchId : Id} {ano : Nat} {agora : Instant}
  {db : LivroCaixa} {linhas : List LinhaDaPlanilha} {linha : LinhaDaPlanilha}
  {m : Membro}

/-! ### The months of a line -/

/-- What the check of the request lets in: twelve values, each of whole cents and not above the
bound. -/
structure LinhaDaPlanilha.Valida (linha : LinhaDaPlanilha) : Prop where
  meses : linha.valores.length = 12
  valores : ∀ valor ∈ linha.valores, ∃ centavos : Nat, centavos ≤ 999_999_999_999 ∧
    valor = Binary64.fl ((centavos : ℚ) / 100)

theorem LinhaDaPlanilha.Valida.emCentavos (valida : linha.Valida) {valor : ℚ}
    (mem : valor ∈ linha.valores) : EmCentavos valor := by
  obtain ⟨n, bound, rfl⟩ := valida.valores valor mem
  apply emCentavos_fl
  have limit : (999_999_999_999 : Nat) < limiteExato := by decide
  omega

theorem LinhaDaPlanilha.Valida.centavos_pos (valida : linha.Valida) {valor : ℚ}
    (mem : valor ∈ linha.valores) (value : valor ≠ 0) : 0 < centavosDe valor := by
  obtain ⟨n, bound, rfl⟩ := valida.valores valor mem
  have limit : (999_999_999_999 : Nat) < limiteExato := by decide
  have small : n < limiteExato := by omega
  rw [centavosDe_fl small]
  rw [Ne, fl_hundredth_eq_zero_iff small] at value
  omega

/-- A tithe of a line, as the month it is of. -/
structure DoMes (linha : LinhaDaPlanilha) (dono : DonoDoDizimo) (ano i : Nat) (d : Dizimo) :
    Prop where
  mes : i < 12
  valor : d.amount ∈ linha.valores
  valor_ne : d.amount ≠ 0
  chave : d.chave = dono.chave ano i
  date : d.date = paraDia (primeiroDoMes ano i)
  userId : d.userId = linha.userId

theorem doMes_of_mem (valida : linha.Valida) {dono : DonoDoDizimo} {d : Dizimo}
    (mem : d ∈ linha.dizimos dono.quem linha.userId ano) : ∃ i, DoMes linha dono ano i d := by
  obtain ⟨⟨valor, i⟩, kept, rfl⟩ := List.mem_map.mp mem
  have here := (List.mem_filter.mp kept).1
  have bounds := List.mem_zipIdx here
  have value := of_decide_eq_true (List.mem_filter.mp kept).2
  refine ⟨i, ?_, ?_, value, rfl, rfl, rfl⟩
  · have lengths := valida.meses
    omega
  · exact List.fst_mem_of_mem_zipIdx here

theorem centavosDe_zero : centavosDe 0 = 0 := by
  unfold centavosDe
  rw [cents_zero]
  rfl

/-- The months from the `k`-th on add to the key of one of them what it has. -/
theorem somaDaChave_zipIdx (f : ℚ × Nat → Dizimo) (dono other : DonoDoDizimo)
    (amount : ∀ mes, (f mes).amount = mes.1) (chave : ∀ mes, (f mes).chave = dono.chave ano mes.2)
    {i : Nat} (month : i < 12) (valores : List ℚ) (k : Nat) (months : k + valores.length ≤ 12) :
    somaDaChave (((valores.zipIdx k).filter fun mes => mes.1 ≠ 0).map f) (other.chave ano i) =
      if dono = other ∧ k ≤ i then centavosDe (valores.getD (i - k) 0) else 0 := by
  induction valores generalizing k with
  | nil =>
      rw [List.zipIdx_nil, List.filter_nil, List.map_nil, List.getD_nil, centavosDe_zero, ite_self]
      rfl
  | cons valor valores ih =>
      rw [List.length_cons] at months
      have first : somaDaChave (([(valor, k)].filter fun mes => mes.1 ≠ 0).map f)
          (other.chave ano i) = if dono = other ∧ k = i then centavosDe valor else 0 := by
        by_cases zero : valor = 0
        · rw [List.filter_cons_of_neg (by simp [zero]), zero, centavosDe_zero, ite_self]
          rfl
        · rw [List.filter_cons_of_pos (by simp [zero]), List.filter_nil, List.map_cons,
            List.map_nil, somaDaChave_singleton, chave, amount]
          have keys : dono.chave ano k = other.chave ano i ↔ dono = other ∧ k = i := by
            constructor
            · exact chave_inj (by omega) month
            · rintro ⟨rfl, rfl⟩
              rfl
          simp only [keys]
      rw [List.zipIdx_cons, ← List.singleton_append, List.filter_append, List.map_append,
        somaDaChave_append, first, ih (k + 1) (by omega)]
      by_cases same : dono = other
      · rcases Nat.lt_trichotomy k i with before | here | after
        · have shift : i - k = i - (k + 1) + 1 := by omega
          rw [if_neg (by omega), if_pos ⟨same, before⟩, if_pos ⟨same, before.le⟩, Nat.zero_add,
            shift, List.getD_cons_succ]
        · rw [if_pos ⟨same, here⟩, if_neg (by omega), if_pos ⟨same, here.le⟩, here, Nat.sub_self,
            List.getD_cons_zero, Nat.add_zero]
        · rw [if_neg (by omega), if_neg (by omega), if_neg (by omega)]
      · rw [if_neg fun both => same both.1, if_neg fun both => same both.1,
          if_neg fun both => same both.1]

namespace LivroCaixa

variable (normalizar churchId db)

/-- The cents of a month over the accepted lines of a person or of a name. -/
def somaDoMes (linhas : List LinhaDaPlanilha) (dono : DonoDoDizimo) (i : Nat) : Nat :=
  ((linhas.filter fun linha => db.aceita churchId linha && linha.dono normalizar = dono).map
    fun linha => centavosDe (linha.valores.getD i 0)).sum

end LivroCaixa

theorem somaDaChave_aceitos (validas : ∀ linha ∈ linhas, linha.Valida) (dono : DonoDoDizimo)
    {i : Nat} (month : i < 12) :
    somaDaChave (db.aceitos normalizar churchId ano linhas) (dono.chave ano i) =
      db.somaDoMes normalizar churchId linhas dono i := by
  induction linhas with
  | nil => rfl
  | cons linha linhas ih =>
      have rest := ih fun linha mem => validas linha (List.mem_cons_of_mem _ mem)
      have twelve := (validas linha List.mem_cons_self).meses
      unfold LivroCaixa.aceitos LivroCaixa.somaDoMes at rest ⊢
      by_cases accepted : db.aceita churchId linha = true
      · rw [List.filter_cons_of_pos accepted, List.flatMap_cons, somaDaChave_append, rest]
        have first : somaDaChave (linha.dizimos (linha.dono normalizar).quem linha.userId ano)
            (dono.chave ano i) =
              if linha.dono normalizar = dono then centavosDe (linha.valores.getD i 0) else 0 := by
          unfold LinhaDaPlanilha.dizimos
          rw [somaDaChave_zipIdx _ (linha.dono normalizar)]
          · simp only [Nat.zero_le, and_true, Nat.sub_zero]
          · exact fun _ => rfl
          · exact fun _ => rfl
          · exact month
          · omega
        rw [first]
        by_cases same : linha.dono normalizar = dono
        · rw [if_pos same, List.filter_cons_of_pos (by simp [accepted, same]), List.map_cons,
            List.sum_cons]
        · rw [if_neg same, List.filter_cons_of_neg (by simp [same]), Nat.zero_add]
      · rw [List.filter_cons_of_neg accepted, List.filter_cons_of_neg (by simp [accepted]), rest]

/-- Each accepted tithe is of a month of an accepted line. -/
theorem mem_aceitos (validas : ∀ linha ∈ linhas, linha.Valida) {d : Dizimo}
    (mem : d ∈ db.aceitos normalizar churchId ano linhas) :
    ∃ linha ∈ linhas, db.aceita churchId linha = true ∧
      ∃ i, DoMes linha (linha.dono normalizar) ano i d := by
  obtain ⟨linha, kept, mem⟩ := List.mem_flatMap.mp mem
  have ⟨here, accepted⟩ := List.mem_filter.mp kept
  exact ⟨linha, here, accepted, doMes_of_mem (validas linha here) mem⟩

theorem somaDaChave_pos {ds : List Dizimo} {d : Dizimo} (mem : d ∈ ds)
    (pos : 0 < centavosDe d.amount) : 0 < somaDaChave ds d.chave := by
  unfold somaDaChave
  apply lt_of_lt_of_le pos
  apply List.single_le_sum (fun _ _ => Nat.zero_le _)
  exact List.mem_map_of_mem (List.mem_filter.mpr ⟨mem, decide_eq_true rfl⟩)

theorem exists_of_somaDaChave_pos {ds : List Dizimo} {chave : String}
    (pos : 0 < somaDaChave ds chave) : ∃ d ∈ ds, d.chave = chave := by
  by_contra none_of
  push Not at none_of
  unfold somaDaChave at pos
  rw [List.filter_eq_nil_iff.mpr] at pos
  · exact absurd pos (by decide)
  · exact fun d mem same => none_of d mem (of_decide_eq_true same)

/-- The joined tithes of a spreadsheet whose sums are exact. -/
theorem juntou_aceitos (validas : ∀ linha ∈ linhas, linha.Valida)
    (exato : ∀ dono, ∀ i < 12, db.somaDoMes normalizar churchId linhas dono i < limiteExato) :
    Juntou (db.aceitos normalizar churchId ano linhas)
      ((db.aceitos normalizar churchId ano linhas).foldl juntarDizimo []) := by
  apply juntou_foldl
  · intro d mem
    obtain ⟨linha, here, _, _, doMes⟩ := mem_aceitos validas mem
    exact (validas linha here).emCentavos doMes.valor
  · intro chave
    rcases Nat.eq_zero_or_pos (somaDaChave (db.aceitos normalizar churchId ano linhas) chave) with
      zero | pos
    · rw [zero]
      decide
    · obtain ⟨d, mem, same⟩ := exists_of_somaDaChave_pos pos
      obtain ⟨linha, _, _, i, doMes⟩ := mem_aceitos validas mem
      rw [← same, doMes.chave, somaDaChave_aceitos validas _ doMes.mes]
      exact exato (linha.dono normalizar) i doMes.mes

theorem exato_of_cabe {soma : Nat} (cabe : (soma : Int) ≤ LivroCaixa.valorMaximo) :
    soma < limiteExato := by
  have limit : LivroCaixa.valorMaximo < (limiteExato : Int) := by decide
  omega

/-- The tithes of a month with something are joined into one. -/
theorem exists_juntado (validas : ∀ linha ∈ linhas, linha.Valida) {porChave : List Dizimo}
    (juntou : Juntou (db.aceitos normalizar churchId ano linhas) porChave) {dono : DonoDoDizimo}
    {i : Nat} (month : i < 12) (pos : 0 < db.somaDoMes normalizar churchId linhas dono i) :
    ∃ d ∈ porChave, d.chave = dono.chave ano i ∧ d.amount =
      Binary64.fl ((db.somaDoMes normalizar churchId linhas dono i : ℚ) / 100) := by
  have of_key : 0 < somaDaChave (db.aceitos normalizar churchId ano linhas) (dono.chave ano i) := by
    rwa [somaDaChave_aceitos validas dono month]
  obtain ⟨e, e_mem, e_key⟩ := exists_of_somaDaChave_pos of_key
  obtain ⟨d, d_mem, d_key⟩ := juntou.todas e e_mem
  have amount := juntou.soma d d_mem
  rw [d_key, e_key, somaDaChave_aceitos validas _ month] at amount
  exact ⟨d, d_mem, d_key.trans e_key, amount⟩

/-! ### What is written -/

namespace LivroCaixa

variable (churchId agora db)

/-- A month that has its entry. -/
def importado (chave : String) : Bool :=
  db.lancamentos.any fun l => l.churchId = churchId && l.externalId = some chave

/-- The entries of the tithes whose month has none. -/
def novos (ds : List Dizimo) : List Lancamento :=
  ((ds.filter fun d => !db.importado churchId d.chave).zipIdx db.nextId).map fun d =>
    d.1.lancamento churchId agora d.2

variable {churchId agora db}

theorem inserirNova_dizimo (d : Dizimo) :
    db.inserirNova (d.lancamento churchId agora) =
      if db.importado churchId d.chave then db
      else { db with
        lancamentos := db.lancamentos ++ [d.lancamento churchId agora db.nextId]
        nextId := db.nextId + 1 } := by
  have known : (db.lancamentos.any fun l => l.churchId = churchId && l.externalId.isSome &&
      l.externalId = some d.chave) = db.importado churchId d.chave := by
    unfold importado
    congr 1
    funext l
    cases l.externalId with
    | none => simp
    | some chave => simp
  unfold inserirNova
  change (if (db.lancamentos.any fun l => l.churchId = churchId && l.externalId.isSome &&
      l.externalId = some d.chave) = true then _ else _) = _
  rw [known]

theorem importado_inserirNova {d : Dizimo} {chave : String} (apart : d.chave ≠ chave) :
    (db.inserirNova (d.lancamento churchId agora)).importado churchId chave =
      db.importado churchId chave := by
  rw [inserirNova_dizimo]
  split
  · rfl
  · unfold importado
    simp [Dizimo.lancamento, apart]

/-- The insertion of tithes of different months. -/
theorem inserir_foldl {ds : List Dizimo} (chaves : (ds.map Dizimo.chave).Nodup) (db : LivroCaixa) :
    (ds.foldl (fun atual d => atual.inserirNova (d.lancamento churchId agora)) db).lancamentos =
        db.lancamentos ++ db.novos churchId agora ds ∧
      (ds.foldl (fun atual d => atual.inserirNova (d.lancamento churchId agora)) db).membros =
        db.membros := by
  induction ds generalizing db with
  | nil => simp [novos]
  | cons d ds ih =>
      rw [List.map_cons, List.nodup_cons] at chaves
      obtain ⟨lancamentos, membros⟩ := ih chaves.2 (db.inserirNova (d.lancamento churchId agora))
      have same : ∀ e ∈ ds,
          (!(db.inserirNova (d.lancamento churchId agora)).importado churchId e.chave) =
            !db.importado churchId e.chave := by
        intro e mem
        rw [importado_inserirNova]
        intro same
        apply chaves.1
        rw [same]
        exact List.mem_map_of_mem mem
      rw [List.foldl_cons, lancamentos, membros]
      unfold novos
      rw [List.filter_congr same, inserirNova_dizimo]
      cases known : db.importado churchId d.chave with
      | true =>
          rw [if_pos rfl, List.filter_cons_of_neg (by simp [known])]
          exact ⟨rfl, rfl⟩
      | false =>
          rw [if_neg Bool.false_ne_true, List.filter_cons_of_pos (by simp [known]),
            List.zipIdx_cons, List.map_cons, List.append_assoc]
          exact ⟨rfl, rfl⟩

/-- Each new entry is of a month that had none. -/
theorem mem_novos {ds : List Dizimo} {l : Lancamento} (mem : l ∈ db.novos churchId agora ds) :
    ∃ d ∈ ds, db.importado churchId d.chave = false ∧ ∃ id, l = d.lancamento churchId agora id := by
  obtain ⟨⟨d, id⟩, there, rfl⟩ := List.mem_map.mp mem
  have ⟨here, fresh⟩ := List.mem_filter.mp (List.fst_mem_of_mem_zipIdx there)
  exact ⟨d, here, by simpa using fresh, id, rfl⟩

/-- The one entry of a month that had none. -/
theorem filter_novos {ds : List Dizimo} (chaves : (ds.map Dizimo.chave).Nodup) {d : Dizimo}
    (mem : d ∈ ds) (fresh : db.importado churchId d.chave = false) :
    ∃ id, ((db.lancamentos ++ db.novos churchId agora ds).filter fun l =>
      l.churchId = churchId && l.externalId = some d.chave) = [d.lancamento churchId agora id] := by
  have before : (db.lancamentos.filter fun l =>
      l.churchId = churchId && l.externalId = some d.chave) = [] := by
    rw [List.filter_eq_nil_iff]
    exact List.any_eq_false.mp fresh
  have there : d ∈ ((ds.filter fun d => !db.importado churchId d.chave).zipIdx db.nextId).map
      Prod.fst := by
    rw [List.zipIdx_map_fst, List.mem_filter]
    exact ⟨mem, by rw [fresh]; rfl⟩
  obtain ⟨⟨_, id⟩, in_zip, rfl⟩ := List.mem_map.mp there
  refine ⟨id, ?_⟩
  rw [List.filter_append, before, List.nil_append]
  have keys : ((db.novos churchId agora ds).map Lancamento.externalId).Nodup := by
    have texts : (db.novos churchId agora ds).map Lancamento.externalId =
        ((ds.filter fun d => !db.importado churchId d.chave).map Dizimo.chave).map some := by
      have columns := congrArg (List.map (some ∘ Dizimo.chave))
        (List.zipIdx_map_fst db.nextId (ds.filter fun d => !db.importado churchId d.chave))
      rw [List.map_map] at columns
      unfold novos
      rw [List.map_map, List.map_map]
      exact columns
    rw [texts]
    apply List.Nodup.map (Option.some_injective _)
    exact chaves.sublist ((List.filter_sublist).map _)
  have only := filter_key_eq_singleton keys (List.mem_map_of_mem in_zip)
  rw [← only]
  apply List.filter_congr
  intro l mem
  obtain ⟨e, _, _, id, rfl⟩ := mem_novos mem
  simp [Dizimo.lancamento]

/-! ### The import -/

variable (normalizar churchId ano db linhas) in
/-- An import that adds up. -/
structure Importou (depois : LivroCaixa) : Prop where
  /-- a month with something and without an entry gets one, of the whole sum -/
  mes : ∀ dono, ∀ i < 12, 0 < db.somaDoMes normalizar churchId linhas dono i →
    db.importado churchId (dono.chave ano i) = false → ∃ l : Lancamento,
      (depois.lancamentos.filter fun l =>
        l.churchId = churchId && l.externalId = some (dono.chave ano i)) = [l] ∧
      l.type = .income ∧ l.category = .tithe ∧
      l.amount = db.somaDoMes normalizar churchId linhas dono i ∧
      l.date = paraDia (primeiroDoMes ano i) ∧ l.userId = dono.userId
  /-- no other entry is new, and the old ones stay -/
  antigos : ∃ novas, depois.lancamentos = db.lancamentos ++ novas ∧ ∀ l ∈ novas,
    ∃ dono, ∃ i < 12, l.churchId = churchId ∧ l.externalId = some (dono.chave ano i) ∧
      l.userId = dono.userId ∧ db.importado churchId (dono.chave ano i) = false ∧
      0 < db.somaDoMes normalizar churchId linhas dono i
  membros : depois.membros = db.membros.map (entrar churchId linhas)
  /-- who is of another church stays there, and gets no entry -/
  deOutra : ∀ m ∈ db.membros, ∀ igreja, m.memberChurchId = some igreja → igreja ≠ churchId →
    m ∈ depois.membros ∧ ∀ l ∈ depois.lancamentos, l.userId = some m.id → l ∈ db.lancamentos

end LivroCaixa

/-- What is spread over the months of a person is of accepted lines. -/
theorem aceita_of_somaDoMes_pos {dono : DonoDoDizimo} {i : Nat}
    (pos : 0 < db.somaDoMes normalizar churchId linhas dono i) :
    ∃ linha ∈ linhas, db.aceita churchId linha = true ∧ linha.dono normalizar = dono := by
  by_contra none_of
  push Not at none_of
  unfold LivroCaixa.somaDoMes at pos
  rw [List.filter_eq_nil_iff.mpr] at pos
  · exact Nat.lt_irrefl 0 pos
  · intro linha mem both
    rw [Bool.and_eq_true, decide_eq_true_eq] at both
    exact none_of linha mem both.1 both.2

theorem dono_userId {userId : Id} (of : (linha.dono normalizar).userId = some userId) :
    linha.userId = some userId := by
  unfold LinhaDaPlanilha.dono at of
  cases named : linha.userId with
  | none =>
      rw [named] at of
      cases of
  | some other =>
      rw [named] at of
      exact of

/-- A line of who is of another church is passed over. -/
theorem aceita_deOutra (ids : (db.membros.map Membro.id).Nodup) {m : Membro} (mem : m ∈ db.membros)
    {igreja : Id} (is : m.memberChurchId = some igreja) (other : igreja ≠ churchId)
    (named : linha.userId = some m.id) : db.aceita churchId linha = false := by
  unfold LivroCaixa.aceita
  rw [named]
  simp [(lookup_eq_some_iff ids).mpr ⟨mem, rfl⟩, is, other]

variable (db) in
/-- What the joined tithes say of the entries of a book with these members. -/
theorem importou_inserir (ids : (db.membros.map Membro.id).Nodup)
    (validas : ∀ linha ∈ linhas, linha.Valida) {porChave : List Dizimo}
    (juntou : Juntou (db.aceitos normalizar churchId ano linhas) porChave)
    (cabem : ∀ dono, ∀ i < 12,
      (db.somaDoMes normalizar churchId linhas dono i : Int) ≤ LivroCaixa.valorMaximo)
    {depois : LivroCaixa}
    (lancamentos : depois.lancamentos = db.lancamentos ++ db.novos churchId agora porChave)
    (membros : depois.membros = db.membros.map (entrar churchId linhas)) :
    db.Importou normalizar churchId ano linhas depois := by
  have month_of : ∀ d ∈ porChave, ∃ dono, ∃ i < 12, d.chave = dono.chave ano i ∧
      d.date = paraDia (primeiroDoMes ano i) ∧ d.userId = dono.userId ∧
      0 < db.somaDoMes normalizar churchId linhas dono i := by
    intro d mem
    obtain ⟨e, e_mem, chave, date, userId⟩ := juntou.colunas d mem
    obtain ⟨linha, here, _, i, doMes⟩ := mem_aceitos validas e_mem
    have pos := somaDaChave_pos e_mem ((validas linha here).centavos_pos doMes.valor doMes.valor_ne)
    rw [doMes.chave, somaDaChave_aceitos validas _ doMes.mes] at pos
    refine ⟨linha.dono normalizar, i, doMes.mes, chave.symm.trans doMes.chave,
      date.symm.trans doMes.date, ?_, pos⟩
    rw [← userId, doMes.userId]
    unfold LinhaDaPlanilha.dono
    cases linha.userId <;> rfl
  have novas : ∀ l ∈ db.novos churchId agora porChave, ∃ dono, ∃ i < 12,
      l.churchId = churchId ∧ l.externalId = some (dono.chave ano i) ∧ l.userId = dono.userId ∧
      db.importado churchId (dono.chave ano i) = false ∧
      0 < db.somaDoMes normalizar churchId linhas dono i := by
    intro l mem
    obtain ⟨d, d_mem, fresh, id, rfl⟩ := LivroCaixa.mem_novos mem
    obtain ⟨dono, i, month, chave, _, userId, pos⟩ := month_of d d_mem
    rw [chave] at fresh
    exact ⟨dono, i, month, rfl, congrArg some chave, userId, fresh, pos⟩
  constructor
  case mes =>
    intro dono i month pos fresh
    obtain ⟨d, d_mem, key, amount⟩ := exists_juntado validas juntou month pos
    rw [← key] at fresh
    obtain ⟨id, only⟩ := LivroCaixa.filter_novos juntou.chaves d_mem fresh
    obtain ⟨other, j, j_month, chave, date, userId, _⟩ := month_of d d_mem
    obtain ⟨rfl, rfl⟩ := chave_inj j_month month (chave.symm.trans key)
    refine ⟨d.lancamento churchId agora id, ?_, rfl, rfl, ?_, date, userId⟩
    · rw [lancamentos, ← key]
      exact only
    · change cents d.amount = _
      rw [amount]
      exact cents_fl (exato_of_cabe (cabem other j month))
  case antigos => exact ⟨_, lancamentos, novas⟩
  case membros => exact membros
  case deOutra =>
    intro m mem igreja is other
    constructor
    · rw [membros]
      exact List.mem_map.mpr ⟨m, mem, entrar_of_some is⟩
    · intro l l_mem user
      rw [lancamentos] at l_mem
      rcases List.mem_append.mp l_mem with old | new
      · exact old
      · obtain ⟨dono, i, _, _, _, userId, _, pos⟩ := novas l new
        obtain ⟨linha, _, accepted, rfl⟩ := aceita_of_somaDoMes_pos pos
        rw [user] at userId
        rw [aceita_deOutra ids mem is other (dono_userId userId.symm)] at accepted
        cases accepted

/-- The import of a spreadsheet that fits. -/
theorem importarPlanilha_eq (ids : (db.membros.map Membro.id).Nodup)
    (validas : ∀ linha ∈ linhas, linha.Valida)
    (cabem : ∀ dono, ∀ i < 12,
      (db.somaDoMes normalizar churchId linhas dono i : Int) ≤ LivroCaixa.valorMaximo) :
    (∃ resultado, (db.importarPlanilha normalizar churchId ano linhas agora).2 = .ok resultado) ∧
    (db.importarPlanilha normalizar churchId ano linhas agora).1.lancamentos =
      db.lancamentos ++ db.novos churchId agora
        ((db.aceitos normalizar churchId ano linhas).foldl juntarDizimo []) ∧
    (db.importarPlanilha normalizar churchId ano linhas agora).1.membros =
      db.membros.map (entrar churchId linhas) := by
  have leu : Leu normalizar churchId ano db linhas _ := leu_foldl ids linhas 0 []
  have juntou : Juntou (db.aceitos normalizar churchId ano linhas) _ :=
    juntou_aceitos validas fun dono i month => exato_of_cabe (cabem dono i month)
  have fits : ((db.aceitos normalizar churchId ano linhas).foldl juntarDizimo []).any
      (fun d => LivroCaixa.valorMaximo < cents d.amount) = false := by
    rw [List.any_eq_false]
    intro d mem
    obtain ⟨e, e_mem, chave, _⟩ := juntou.colunas d mem
    obtain ⟨linha, _, _, i, doMes⟩ := mem_aceitos validas e_mem
    have amount := juntou.soma d mem
    rw [← chave, doMes.chave, somaDaChave_aceitos validas _ doMes.mes] at amount
    have bound := cabem (linha.dono normalizar) i doMes.mes
    rw [amount, cents_fl (exato_of_cabe bound)]
    simpa using bound
  unfold LivroCaixa.importarPlanilha
  simp only [leu.porChave, leu.db_eq, fits, Bool.false_eq_true, if_false]
  constructor
  · exact ⟨_, rfl⟩
  · exact LivroCaixa.inserir_foldl juntou.chaves
      { db with membros := db.membros.map (entrar churchId linhas) }

/-- A sum above the column fails the whole insertion. -/
theorem importarPlanilha_estoura (ids : (db.membros.map Membro.id).Nodup)
    (validas : ∀ linha ∈ linhas, linha.Valida)
    (exato : ∀ dono, ∀ i < 12, db.somaDoMes normalizar churchId linhas dono i < limiteExato)
    {dono : DonoDoDizimo} {i : Nat} (month : i < 12)
    (estoura : LivroCaixa.valorMaximo < db.somaDoMes normalizar churchId linhas dono i) :
    db.importarPlanilha normalizar churchId ano linhas agora =
      ({ db with membros := db.membros.map (entrar churchId linhas) },
        .error (internalServerError "numeric field overflow")) := by
  have leu : Leu normalizar churchId ano db linhas _ := leu_foldl ids linhas 0 []
  have juntou : Juntou (db.aceitos normalizar churchId ano linhas) _ :=
    juntou_aceitos validas exato
  have pos : 0 < db.somaDoMes normalizar churchId linhas dono i := by
    have top : 0 < LivroCaixa.valorMaximo := by decide
    omega
  obtain ⟨d, mem, _, amount⟩ := exists_juntado validas juntou month pos
  have above : ((db.aceitos normalizar churchId ano linhas).foldl juntarDizimo []).any
      (fun d => LivroCaixa.valorMaximo < cents d.amount) = true := by
    rw [List.any_eq_true]
    refine ⟨d, mem, decide_eq_true ?_⟩
    rwa [amount, cents_fl (exato dono i month)]
  unfold LivroCaixa.importarPlanilha
  simp only [leu.porChave, leu.db_eq, above, if_true]

/-- After an import its lines are accepted as before. -/
theorem aceita_entrar {depois : LivroCaixa}
    (membros : depois.membros = db.membros.map (entrar churchId linhas)) (mem : linha ∈ linhas) :
    depois.aceita churchId linha = db.aceita churchId linha := by
  unfold LivroCaixa.aceita
  cases named : linha.userId with
  | none => rfl
  | some userId =>
      simp only [membros, lookup_entrar]
      cases found : lookup Membro.id userId db.membros with
      | none => rfl
      | some m =>
          have here : linha.userId = some m.id := by rw [named, lookup_key found]
          rw [Option.map_some, Option.any_some, Option.any_some]
          cases church : m.memberChurchId with
          | some igreja => rw [entrar_of_some church, church]
          | none =>
              have entered : (entrar churchId linhas m).memberChurchId = some churchId := by
                unfold entrar
                rw [if_pos ⟨church, List.any_eq_true.mpr ⟨linha, mem, decide_eq_true here⟩⟩]
              rw [entered]
              simp

theorem entrar_entrar : entrar churchId linhas (entrar churchId linhas m) =
    entrar churchId linhas m := by
  by_cases new : m.memberChurchId = none ∧
      (linhas.any fun linha => linha.userId = some m.id) = true
  · apply entrar_of_some
    unfold entrar
    rw [if_pos new]
  · have same : entrar churchId linhas m = m := by
      unfold entrar
      rw [if_neg new]
    rw [same, same]

/-- The import of a spreadsheet of whole cents whose sums fit the column. -/
theorem importou_planilha (unicode : Unicode) (ids : (db.membros.map Membro.id).Nodup)
    (validas : ∀ linha ∈ linhas, linha.Valida)
    (cabem : ∀ dono, ∀ i < 12, (db.somaDoMes (Planilha.normalizarNome unicode) churchId linhas
      dono i : Int) ≤ LivroCaixa.valorMaximo) :
    let depois := (db.importarPlanilha (Planilha.normalizarNome unicode) churchId ano
      linhas agora).1
    db.Importou (Planilha.normalizarNome unicode) churchId ano linhas depois ∧
      ∀ outraHora,
        (depois.importarPlanilha (Planilha.normalizarNome unicode) churchId ano linhas
          outraHora).1.lancamentos = depois.lancamentos ∧
        (depois.importarPlanilha (Planilha.normalizarNome unicode) churchId ano linhas
          outraHora).1.membros = depois.membros := by
  intro depois
  obtain ⟨_, lancamentos, membros⟩ := importarPlanilha_eq ids validas cabem
  have juntou : Juntou (db.aceitos (Planilha.normalizarNome unicode) churchId ano linhas) _ :=
    juntou_aceitos validas fun dono i month => exato_of_cabe (cabem dono i month)
  refine ⟨importou_inserir db ids validas juntou cabem lancamentos membros, ?_⟩
  intro outraHora
  -- the second time the same lines are accepted, and every month they add to has its entry
  have aceita : ∀ linha ∈ linhas, depois.aceita churchId linha = db.aceita churchId linha :=
    fun linha mem => aceita_entrar membros mem
  have aceitos : depois.aceitos (Planilha.normalizarNome unicode) churchId ano linhas =
      db.aceitos (Planilha.normalizarNome unicode) churchId ano linhas := by
    unfold LivroCaixa.aceitos
    rw [List.filter_congr aceita]
  have ids' : (depois.membros.map Membro.id).Nodup := by
    rw [membros, List.map_map]
    have same : Membro.id ∘ entrar churchId linhas = Membro.id := by
      funext m
      exact entrar_id
    rwa [same]
  have cabem' : ∀ dono, ∀ i < 12, (depois.somaDoMes (Planilha.normalizarNome unicode) churchId
      linhas dono i : Int) ≤ LivroCaixa.valorMaximo := by
    intro dono i month
    have bound := cabem dono i month
    unfold LivroCaixa.somaDoMes at bound ⊢
    rwa [List.filter_congr fun linha mem => by rw [aceita linha mem]]
  obtain ⟨_, lancamentos', membros'⟩ := importarPlanilha_eq ids' validas cabem'
  have imported : depois.novos churchId outraHora
      ((depois.aceitos (Planilha.normalizarNome unicode) churchId ano linhas).foldl
        juntarDizimo []) = [] := by
    rw [List.eq_nil_iff_forall_not_mem]
    intro l mem
    obtain ⟨d, d_mem, fresh, _⟩ := LivroCaixa.mem_novos mem
    rw [aceitos] at d_mem
    have known : depois.importado churchId d.chave = true := by
      unfold LivroCaixa.importado
      rw [lancamentos, List.any_append]
      cases before : db.importado churchId d.chave with
      | true =>
          unfold LivroCaixa.importado at before
          rw [before, Bool.true_or]
      | false =>
          obtain ⟨id, only⟩ := LivroCaixa.filter_novos juntou.chaves d_mem before
          rw [← List.any_append, List.any_eq_true]
          have there := List.mem_filter.mp (only ▸ List.mem_singleton_self _)
          exact ⟨_, there⟩
    rw [known] at fresh
    cases fresh
  constructor
  · rw [lancamentos', imported, List.append_nil]
  · rw [membros', membros, List.map_map]
    apply List.map_congr_left
    exact fun m _ => entrar_entrar

end Planilha

/-! ### Two rows of one name, and a row of zeros -/

def livroSemLancamentos : LivroCaixa where
  lancamentos := []
  membros := []
  integracoes := fun _ => none
  alocacoes := []
  nextId := 1

/-- The same amount in every month, in cents. -/
def linhaAnonima (nome : String) (centavos : Nat) : LinhaDaPlanilha where
  nome := nome
  userId := none
  valores := List.replicate 12 (Binary64.fl ((centavos : ℚ) / 100))

theorem linhaAnonima_valida (nome : String) {centavos : Nat} (bound : centavos ≤ 999_999_999_999) :
    (linhaAnonima nome centavos).Valida where
  meses := List.length_replicate
  valores := fun _ mem => ⟨centavos, bound, List.eq_of_mem_replicate mem⟩

theorem centavosDe_linhaAnonima (nome : String) {centavos i : Nat} (small : centavos < limiteExato)
    (month : i < 12) :
    centavosDe ((linhaAnonima nome centavos).valores[i]?.getD 0) = centavos := by
  unfold linhaAnonima
  rw [List.getElem?_replicate_of_lt month, Option.getD_some, centavosDe_fl small]

/-- Two rows of one name. -/
theorem somaDoMes_duasLinhas (dono : DonoDoDizimo) {nome outro texto : String} {a b i : Nat}
    (of_nome : Planilha.normalizarNome Planilha.ascii nome = texto)
    (of_outro : Planilha.normalizarNome Planilha.ascii outro = texto) (a_small : a < limiteExato)
    (b_small : b < limiteExato) (month : i < 12) :
    livroSemLancamentos.somaDoMes (Planilha.normalizarNome Planilha.ascii) 1
      [linhaAnonima nome a, linhaAnonima outro b] dono i =
        if DonoDoDizimo.nome texto = dono then a + b else 0 := by
  have donos : ∀ nome c, (linhaAnonima nome c).dono (Planilha.normalizarNome Planilha.ascii) =
    .nome (Planilha.normalizarNome Planilha.ascii nome) := fun _ _ => rfl
  have aceita : ∀ nome c, livroSemLancamentos.aceita 1 (linhaAnonima nome c) = true :=
    fun _ _ => rfl
  unfold LivroCaixa.somaDoMes
  by_cases same : DonoDoDizimo.nome texto = dono
  · simp [aceita, donos, of_nome, of_outro, same, centavosDe_linhaAnonima _ a_small month,
      centavosDe_linhaAnonima _ b_small month]
  · simp [aceita, donos, of_nome, of_outro, same]

/-- The two rows add up in the one entry of each month. -/
theorem importou_planilha_ana :
    ∃ l : Lancamento, (((livroSemLancamentos.importarPlanilha
      (Planilha.normalizarNome Planilha.ascii) 1
        2026 [linhaAnonima "Ana Reis" 15000, linhaAnonima " ANA  reis" 15000]
          0).1.lancamentos).filter
          fun l => l.churchId = 1 && l.externalId = some "planilha:anonimo:ana reis:2026-01") =
            [l] ∧ l.amount = 30000 := by
  have small : 15000 < limiteExato := by decide
  have names : Planilha.normalizarNome Planilha.ascii "Ana Reis" = "ana reis" ∧
      Planilha.normalizarNome Planilha.ascii " ANA  reis" = "ana reis" := by decide
  have validas : ∀ linha ∈ [linhaAnonima "Ana Reis" 15000, linhaAnonima " ANA  reis" 15000],
      linha.Valida := by
    intro linha mem
    rcases List.mem_pair.mp mem with rfl | rfl
    · exact linhaAnonima_valida _ (by decide)
    · exact linhaAnonima_valida _ (by decide)
  have cabem : ∀ dono, ∀ i < 12, (livroSemLancamentos.somaDoMes
      (Planilha.normalizarNome Planilha.ascii) 1
      [linhaAnonima "Ana Reis" 15000, linhaAnonima " ANA  reis" 15000] dono i : Int) ≤
        LivroCaixa.valorMaximo := by
    intro dono i month
    rw [somaDoMes_duasLinhas dono names.1 names.2 small small month]
    split <;> decide
  have ids : (livroSemLancamentos.membros.map Membro.id).Nodup := List.nodup_nil
  have importou : livroSemLancamentos.Importou (Planilha.normalizarNome Planilha.ascii) 1 2026
      [linhaAnonima "Ana Reis" 15000, linhaAnonima " ANA  reis" 15000]
      (livroSemLancamentos.importarPlanilha (Planilha.normalizarNome Planilha.ascii) 1 2026
        [linhaAnonima "Ana Reis" 15000, linhaAnonima " ANA  reis" 15000] 0).1 :=
    (importou_planilha Planilha.ascii ids validas cabem).1
  have january := somaDoMes_duasLinhas (.nome "ana reis") names.1 names.2 small small
    (by decide : 0 < 12)
  rw [if_pos rfl] at january
  obtain ⟨l, only, _, _, amount, _⟩ := importou.mes (.nome "ana reis") 0 (by decide)
    (by rw [january]; decide) rfl
  rw [january] at amount
  exact ⟨l, only, amount⟩

/-- A month of zeros gets no entry, and where a sum does not fit its column no month does. -/
theorem not_umLancamentoPorMes :
    (¬∀ (linhas : List LinhaDaPlanilha), (∀ linha ∈ linhas, linha.Valida) → ∀ linha ∈ linhas,
      livroSemLancamentos.aceita 1 linha = true → ∀ i < 12, ∃ l : Lancamento,
        ((livroSemLancamentos.importarPlanilha (Planilha.normalizarNome Planilha.ascii) 1 2026
          linhas 0).1.lancamentos.filter fun l => l.churchId = 1 && l.externalId =
            some ((linha.dono (Planilha.normalizarNome Planilha.ascii)).chave 2026 i)) = [l]) ∧
      (livroSemLancamentos.importarPlanilha (Planilha.normalizarNome Planilha.ascii) 1 2026
        [linhaAnonima "Ana Reis" 999_999_999_999, linhaAnonima "Ana Reis" 1] 0).1.lancamentos =
          [] := by
  constructor
  · intro every
    obtain ⟨l, only⟩ := every [linhaAnonima "Ana Reis" 0] (by
      intro linha mem
      rw [List.mem_singleton.mp mem]
      exact linhaAnonima_valida _ (by decide)) _ (List.mem_singleton_self _) rfl 0 (by decide)
    have zeros : linhaAnonima "Ana Reis" 0 = ⟨"Ana Reis", none, List.replicate 12 0⟩ := by
      unfold linhaAnonima
      rw [(fl_hundredth_eq_zero_iff (by decide)).mpr rfl]
    have none_of : (livroSemLancamentos.importarPlanilha (Planilha.normalizarNome Planilha.ascii)
        1 2026 [linhaAnonima "Ana Reis" 0] 0).1.lancamentos = [] := by
      rw [zeros]
      decide
    rw [none_of] at only
    cases only
  · have name : Planilha.normalizarNome Planilha.ascii "Ana Reis" = "ana reis" := by decide
    have top_small : 999_999_999_999 < limiteExato := by decide
    have one_small : 1 < limiteExato := by decide
    have validas : ∀ linha ∈ [linhaAnonima "Ana Reis" 999_999_999_999, linhaAnonima "Ana Reis" 1],
        linha.Valida := by
      intro linha mem
      rcases List.mem_pair.mp mem with rfl | rfl
      · exact linhaAnonima_valida _ (by decide)
      · exact linhaAnonima_valida _ (by decide)
    have january := somaDoMes_duasLinhas (.nome "ana reis") name name top_small one_small
      (by decide : 0 < 12)
    rw [if_pos rfl] at january
    have ids : (livroSemLancamentos.membros.map Membro.id).Nodup := List.nodup_nil
    rw [importarPlanilha_estoura ids validas _ (by decide : 0 < 12) (by rw [january]; decide)]
    · rfl
    · intro dono i month
      rw [somaDoMes_duasLinhas dono name name top_small one_small month]
      split <;> decide

end IccvBackend
