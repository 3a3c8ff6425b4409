/-
Module: IccvBackend.Proofs.SharedBrowser
Purpose: What holds of the shared Chrome across any interleaving of generations, launches, crashes
  and clocks: the count of open pages is exact and the idle clock only runs at zero; a call has a
  browser being closed, a browser is lost, or left open for good, exactly at the steps named here.
Trusted boundary: none
Main exports: Compartilhado.EmOrdem, Compartilhado.SemInterrupcao, Compartilhado.SemChromePerdido,
  Compartilhado.Recolhido, chrome_em_ordem, sem_interrupcao_iff, sem_chrome_perdido_iff,
  recolhido_iff
-/
import IccvBackend.Lib.Tasks
import IccvBackend.Pdf.Navegador

namespace IccvBackend

open Lib

namespace Compartilhado

variable {s : Compartilhado} {i j n m : Nat}

/-! ### The laws -/

/-- The count of open pages and the idle clock. -/
structure Relogio (s : Compartilhado) : Prop where
  contagem : s.paginasAbertas = s.geracoes.countP Geracao.emUso
  so_o_ultimo : ∀ r ∈ s.armados, s.ocioso = some r
  um : s.armados.Nodup
  parado : s.armados ≠ [] → s.paginasAbertas = 0

/-- The browser is open or about to be, and the clock did not take it. -/
def vivo (s : Compartilhado) (n : Nat) : Prop :=
  s.navegadores[n]? = some ⟨.lancando, false⟩ ∨ s.navegadores[n]? = some ⟨.aberto, false⟩

/-- The shared browser and those killed at the exit of the process. -/
structure Vivos (s : Compartilhado) : Prop where
  compartilhado : ∀ n, s.compartilhado = some n → s.vivo n
  ao_sair : ∀ n : Nat, n ∈ s.aoSair ↔ ∃ fechando, s.navegadores[n]? = some ⟨.aberto, fechando⟩
  uma_vez : s.aoSair.Nodup

/-- The calls wait for a launch that goes on. -/
def Esperas (s : Compartilhado) : Prop :=
  ∀ i n : Nat, s.geracoes[i]? = some (.esperando n) →
    ∃ fechando, s.navegadores[n]? = some ⟨.lancando, fechando⟩

structure EmOrdem (s : Compartilhado) : Prop extends Relogio s, Vivos s where
  esperas : s.Esperas

/-- No call waits for a browser, asks it for a page or uses one that the idle clock took. -/
def SemInterrupcao (s : Compartilhado) : Prop :=
  ∀ (i : Nat) (g : Geracao) (n : Nat), s.geracoes[i]? = some g → g.navegador = some n →
    ∀ navegador, s.navegadores[n]? = some navegador → navegador.fechando = false

/-- A browser that is open, or about to be, is the shared one or the clock took it: no other is
reused or closed again. -/
def SemChromePerdido (s : Compartilhado) : Prop := ∀ n, s.vivo n → s.compartilhado = some n

/-- The shared browser, once open, has a page in use or a clock that will close it. -/
def Recolhido (s : Compartilhado) : Prop :=
  ∀ n : Nat, s.compartilhado = some n → s.navegadores[n]? = some ⟨.aberto, false⟩ →
    0 < s.paginasAbertas ∨ s.armados ≠ []

/-! ### The count and the clock -/

theorem Relogio.armados_nil (clock : s.Relogio) (busy : s.paginasAbertas ≠ 0) : s.armados = [] := by
  by_contra armed
  exact busy (clock.parado armed)

theorem Relogio.ninguem_em_uso (clock : s.Relogio) (armed : s.armados ≠ []) {g : Geracao}
    (call : s.geracoes[i]? = some g) : g.emUso = false := by
  have none_counted : s.geracoes.countP Geracao.emUso = 0 := by
    have count := clock.contagem
    have zero := clock.parado armed
    omega
  simpa using List.countP_eq_zero.mp none_counted g (List.mem_of_getElem? call)

/-- A clock that runs is the one `clearTimeout` stops. -/
theorem Relogio.armados_limpos (clock : s.Relogio) : s.limparRelogio.armados = [] :=
  List.filter_eq_nil_iff.mpr fun r mem => by simp [clock.so_o_ultimo r mem]

theorem countP_moveu {g h : Geracao} (call : s.geracoes[i]? = some g) :
    ((s.geracoes.set i h).countP Geracao.emUso : Int) =
      s.geracoes.countP Geracao.emUso - (if g.emUso then 1 else 0) + if h.emUso then 1 else 0 := by
  obtain ⟨inside, found⟩ := List.getElem?_eq_some_iff.mp call
  have some_counted : g.emUso = true → 0 < s.geracoes.countP Geracao.emUso := fun used =>
    List.countP_pos_iff.mpr ⟨g, List.mem_of_getElem? call, used⟩
  rw [List.countP_set inside, found]
  cases g_used : g.emUso
  · cases h.emUso <;> simp
  · have pos := some_counted g_used
    simp only [if_true]
    split <;> omega

theorem Relogio.of_eq {s' : Compartilhado} (clock : s.Relogio)
    (pages : s'.paginasAbertas = s.paginasAbertas)
    (calls : s'.geracoes.countP Geracao.emUso = s.geracoes.countP Geracao.emUso)
    (last : s'.ocioso = s.ocioso) (armed : s'.armados = s.armados) : s'.Relogio where
  contagem := by rw [pages, calls, clock.contagem]
  so_o_ultimo := by rw [armed, last]; exact clock.so_o_ultimo
  um := armed ▸ clock.um
  parado := by rw [armed, pages]; exact clock.parado

theorem Relogio.pedirPagina (clock : s.Relogio) (call : s.geracoes[i]? = some (.esperando m)) :
    (s.pedirPagina i n).Relogio := by
  have quiet : (s.pedirPagina i n).armados = [] := clock.armados_limpos
  refine ⟨?_, by simp [quiet], by simp [quiet], fun armed => absurd quiet armed⟩
  have moved := countP_moveu (h := .abrindo n) call
  have count := clock.contagem
  simp only [Geracao.emUso, Bool.false_eq_true, if_false, if_true] at moved
  show s.paginasAbertas + 1 = _
  rw [show (s.pedirPagina i n).geracoes = s.geracoes.set i (.abrindo n) from rfl, moved]
  omega

theorem Relogio.abriuPagina (clock : s.Relogio) (i : Nat) : (s.abriuPagina i).Relogio := by
  unfold Compartilhado.abriuPagina
  split
  · rename_i n call
    refine clock.of_eq rfl ?_ rfl rfl
    have moved := countP_moveu (h := .aberta n) call
    simp only [Geracao.emUso, if_true] at moved
    show (s.geracoes.set i (.aberta n)).countP Geracao.emUso = _
    omega
  · exact clock

theorem Relogio.naoAbriuPagina (clock : s.Relogio) (i : Nat) (erro : String) :
    (s.naoAbriuPagina i erro).Relogio := by
  unfold Compartilhado.naoAbriuPagina
  split
  · rename_i n call
    have moved := countP_moveu (h := .falhou erro) call
    have used : 0 < s.geracoes.countP Geracao.emUso :=
      List.countP_pos_iff.mpr ⟨_, List.mem_of_getElem? call, rfl⟩
    have count := clock.contagem
    have quiet : s.armados = [] := clock.armados_nil (by omega)
    simp only [Geracao.emUso, Bool.false_eq_true, if_false, if_true] at moved
    refine ⟨?_, by simp [quiet], by simp [quiet], fun armed => absurd quiet armed⟩
    show s.paginasAbertas - 1 = _
    rw [moved]
    omega
  · exact clock

theorem Relogio.fechouPagina (clock : s.Relogio) (i : Nat) : (s.fechouPagina i).Relogio := by
  unfold Compartilhado.fechouPagina
  split
  · rename_i n call
    have moved := countP_moveu (h := .fechada) call
    have used : 0 < s.geracoes.countP Geracao.emUso :=
      List.countP_pos_iff.mpr ⟨_, List.mem_of_getElem? call, rfl⟩
    have count := clock.contagem
    have quiet : s.armados = [] := clock.armados_nil (by omega)
    simp only [Geracao.emUso, Bool.false_eq_true, if_false, if_true] at moved
    have closed : s.paginasAbertas - 1 = (s.geracoes.set i .fechada).countP Geracao.emUso := by
      rw [moved]
      omega
    dsimp only
    split
    · exact ⟨closed, by simp [quiet], by simp [quiet], fun armed => absurd quiet armed⟩
    · rename_i idle
      refine ⟨closed, ?_, ?_, fun _ => ?_⟩
      · simp [armarRelogio, quiet]
      · simp [armarRelogio, quiet]
      · show s.paginasAbertas - 1 = 0
        omega
  · exact clock

theorem Relogio.tocou (clock : s.Relogio) (r : Nat) : (s.tocou r).Relogio := by
  unfold Compartilhado.tocou
  split
  · rename_i rings
    exact {
      contagem := clock.contagem
      so_o_ultimo := fun r' mem => clock.so_o_ultimo r' (List.mem_of_mem_erase mem)
      um := clock.um.erase r
      parado := fun _ => clock.parado (List.ne_nil_of_mem rings) }
  · exact clock

/-! ### The calls that await a launch -/

/-- The calls that await browser `n` go on: `lancou` after the browser is open. -/
def retomarTodos (s : Compartilhado) (n : Nat) : Compartilhado :=
  runFrom (fun s i => s.retomar n i) s (List.range s.geracoes.length)

theorem Relogio.retomar (clock : s.Relogio) (n i : Nat) : (s.retomar n i).Relogio := by
  unfold Compartilhado.retomar
  split
  · rename_i call
    exact clock.pedirPagina call
  · exact clock

/-- What `retomar` keeps, the calls that await a browser keep. -/
theorem retomarTodos_keep {P : Compartilhado → Prop} (keep : ∀ s i, P s → P (s.retomar n i))
    (start : P s) : P (s.retomarTodos n) := by
  have kept : Always (fun (s : Compartilhado) i => s.retomar n i) P s
      (List.range s.geracoes.length) := always_of_step keep start _
  exact kept.last

theorem Relogio.retomarTodos (clock : s.Relogio) (n : Nat) : (s.retomarTodos n).Relogio :=
  retomarTodos_keep (fun _ i clock => clock.retomar n i) clock

/-- Asking for a page leaves the browsers alone. -/
structure MesmosNavegadores (s s' : Compartilhado) : Prop where
  navegadores : s'.navegadores = s.navegadores
  compartilhado : s'.compartilhado = s.compartilhado
  aoSair : s'.aoSair = s.aoSair

theorem mesmos_retomar (s : Compartilhado) (n i : Nat) : MesmosNavegadores s (s.retomar n i) := by
  unfold retomar
  split
  · exact ⟨rfl, rfl, rfl⟩
  · exact ⟨rfl, rfl, rfl⟩

theorem mesmos_retomarTodos (s : Compartilhado) (n : Nat) :
    MesmosNavegadores s (s.retomarTodos n) :=
  retomarTodos_keep (P := fun s' => MesmosNavegadores s s')
    (fun s' i same =>
      have one := mesmos_retomar s' n i
      ⟨one.1.trans same.1, one.2.trans same.2, one.3.trans same.3⟩)
    ⟨rfl, rfl, rfl⟩

/-- Where a call is once those that await browser `n` went on. -/
def seguiu (n : Nat) (g : Geracao) : Geracao := if g = .esperando n then .abrindo n else g

theorem geracao_retomar (s : Compartilhado) (n i j : Nat) :
    (s.retomar n i).geracoes[j]? =
      (s.geracoes[j]?).map fun g => if j = i then seguiu n g else g := by
  unfold retomar seguiu
  by_cases same : j = i
  · subst same
    cases call : s.geracoes[j]? with
    | none => simp [call]
    | some g =>
        by_cases waits : g = .esperando n
        · subst waits
          simp [pedirPagina, limparRelogio, getElem?_moved_self call]
        · simp [waits, call]
  · split
    · simp [pedirPagina, limparRelogio, List.getElem?_set_ne (Ne.symm same)]
    · simp

theorem seguiu_seguiu (n : Nat) (g : Geracao) :
    seguiu n (seguiu n g) = seguiu n g := by
  unfold seguiu
  split <;> simp_all

theorem geracao_runFrom_retomar (n j : Nat) (calls : List Nat) (s : Compartilhado) :
    (runFrom (fun s i => s.retomar n i) s calls).geracoes[j]? =
      (s.geracoes[j]?).map fun g => if j ∈ calls then seguiu n g else g := by
  induction calls generalizing s with
  | nil => simp
  | cons i calls ih =>
      rw [runFrom_cons, ih, geracao_retomar, Option.map_map]
      congr 1
      funext g
      by_cases here : j = i <;> by_cases later : j ∈ calls <;> simp [here, later, seguiu_seguiu]

theorem geracao_retomarTodos (s : Compartilhado) (n j : Nat) :
    (s.retomarTodos n).geracoes[j]? = (s.geracoes[j]?).map (seguiu n) := by
  rw [retomarTodos, geracao_runFrom_retomar]
  cases call : s.geracoes[j]? with
  | none => rfl
  | some g =>
      have inside : j ∈ List.range s.geracoes.length :=
        List.mem_range.mpr (List.getElem?_eq_some_iff.mp call).1
      simp [inside]

/-- Browser `n` is open, and dies with the process. -/
def comAberto (s : Compartilhado) (n : Nat) (fechando : Bool) : Compartilhado :=
  { s with
    navegadores := s.navegadores.set n ⟨.aberto, fechando⟩
    aoSair := s.aoSair ++ [n] }

theorem lancou_eq {fechando : Bool} (found : s.navegadores[n]? = some ⟨.lancando, fechando⟩) :
    s.lancou n = (s.comAberto n fechando).retomarTodos n := by
  unfold lancou
  rw [found]
  rfl

theorem lancou_surdo (idle : ¬ ∃ fechando, s.navegadores[n]? = some ⟨.lancando, fechando⟩) :
    s.lancou n = s := by
  unfold lancou
  split
  · rename_i fechando found
    exact absurd ⟨fechando, found⟩ idle
  · rfl

/-! ### The browsers -/

theorem Vivos.of_mesmos {s' : Compartilhado} (alive : s.Vivos) (same : MesmosNavegadores s s') :
    s'.Vivos := by
  obtain ⟨browsers, shared, exit⟩ := same
  exact {
    compartilhado := by
      unfold vivo
      rw [shared, browsers]
      exact alive.compartilhado
    ao_sair := by rw [exit, browsers]; exact alive.ao_sair
    uma_vez := exit ▸ alive.uma_vez }

theorem Vivos.preparar (alive : s.Vivos) : s.prepararNavegador.1.Vivos := by
  unfold prepararNavegador
  split
  · exact alive
  · refine ⟨fun n shared => ?_, fun n => ?_, alive.uma_vez⟩
    · obtain rfl := Option.some.inj shared
      exact .inl List.getElem?_concat_length
    · rw [show n ∈ s.aoSair ↔ _ from alive.ao_sair n]
      constructor
      · rintro ⟨fechando, found⟩
        refine ⟨fechando, ?_⟩
        rw [List.getElem?_append_left (List.getElem?_eq_some_iff.mp found).1, found]
      · rintro ⟨fechando, found⟩
        rcases getElem?_begun found with old | ⟨_, fresh⟩
        · exact ⟨fechando, old⟩
        · cases fresh

/-- Which browsers are open once one of them moved. -/
theorem aberto_set {navegadores : List Navegador} {before after : Navegador}
    (found : navegadores[n]? = some before) (m : Nat) :
    (∃ fechando, (navegadores.set n after)[m]? = some ⟨.aberto, fechando⟩) ↔
      if m = n then after.chrome = .aberto
      else ∃ fechando, navegadores[m]? = some ⟨.aberto, fechando⟩ := by
  by_cases same : m = n
  · subst same
    rw [getElem?_moved_self found, if_pos rfl]
    constructor
    · rintro ⟨_, h⟩
      rw [Option.some.inj h]
    · exact fun h => ⟨after.fechando, by rw [← h]⟩
  · rw [List.getElem?_set_ne (Ne.symm same), if_neg same]

theorem Vivos.lancou (alive : s.Vivos) (n : Nat) : (s.lancou n).Vivos := by
  by_cases launching : ∃ fechando, s.navegadores[n]? = some ⟨.lancando, fechando⟩
  · obtain ⟨fechando, found⟩ := launching
    have closed : n ∉ s.aoSair := fun mem => by
      obtain ⟨_, opened⟩ := (alive.ao_sair n).mp mem
      rw [found] at opened
      cases opened
    rw [lancou_eq found]
    refine Vivos.of_mesmos ⟨fun m shared => ?_, fun m => ?_, ?_⟩ (mesmos_retomarTodos _ n)
    · by_cases same : m = n
      · subst same
        have : fechando = false := by
          rcases alive.compartilhado m shared with h | h <;> rw [found] at h <;> cases h
          rfl
        subst this
        exact .inr (getElem?_moved_self found)
      · show (s.navegadores.set n _)[m]? = _ ∨ (s.navegadores.set n _)[m]? = _
        rw [List.getElem?_set_ne (Ne.symm same)]
        exact alive.compartilhado m shared
    · show m ∈ s.aoSair ++ [n] ↔ ∃ f, (s.navegadores.set n _)[m]? = _
      rw [aberto_set found, List.mem_append, List.mem_singleton, alive.ao_sair m]
      by_cases same : m = n <;> simp [same]
    · exact List.nodup_append.mpr ⟨alive.uma_vez, List.nodup_cons.mpr ⟨by simp, List.nodup_nil⟩, by
        rintro a mem b only rfl
        exact closed (List.mem_singleton.mp only ▸ mem)⟩
  · rw [lancou_surdo launching]
    exact alive

theorem Vivos.naoLancou (alive : s.Vivos) (n : Nat) (mensagem : String) :
    (s.naoLancou n mensagem).Vivos := by
  unfold Compartilhado.naoLancou
  split
  · rename_i fechando found
    refine ⟨nofun, fun m => ?_, alive.uma_vez⟩
    show m ∈ s.aoSair ↔ ∃ f, (s.navegadores.set n _)[m]? = _
    rw [aberto_set found, alive.ao_sair m]
    by_cases same : m = n
    · subst same
      simp [found]
    · simp [same]
  · exact alive

theorem Vivos.desconectou (alive : s.Vivos) (n : Nat) : (s.desconectou n).Vivos := by
  unfold Compartilhado.desconectou
  split
  · rename_i fechando found
    refine ⟨nofun, fun m => ?_, alive.uma_vez.filter _⟩
    show m ∈ s.aoSair.filter _ ↔ ∃ f, (s.navegadores.set n _)[m]? = _
    rw [aberto_set found, List.mem_filter, alive.ao_sair m]
    by_cases same : m = n <;> simp [same]
  · exact alive

/-- What a clock that rings does to the browsers. -/
theorem navegadores_tocou {r : Nat} (rings : r ∈ s.armados) (m : Nat) :
    (s.tocou r).navegadores[m]? = (s.navegadores[m]?).map fun navegador =>
      if s.compartilhado = some m then { navegador with fechando := true } else navegador := by
  unfold tocou
  rw [if_pos rings]
  cases shared : s.compartilhado with
  | none => simp
  | some n =>
      show (s.navegadores.modify n _)[m]? = _
      rw [List.getElem?_modify]
      by_cases same : n = m <;> simp [same]

theorem chrome_tocou {r : Nat} (rings : r ∈ s.armados) (m : Nat) (chrome : Chrome) :
    (∃ fechando, (s.tocou r).navegadores[m]? = some ⟨chrome, fechando⟩) ↔
      ∃ fechando, s.navegadores[m]? = some ⟨chrome, fechando⟩ := by
  rw [navegadores_tocou rings]
  cases s.navegadores[m]? with
  | none => simp
  | some navegador =>
      obtain ⟨_, _⟩ := navegador
      by_cases shared : s.compartilhado = some m <;> simp [shared]

theorem tocou_surdo {r : Nat} (silent : r ∉ s.armados) : s.tocou r = s := if_neg silent

theorem Vivos.tocou (alive : s.Vivos) (r : Nat) : (s.tocou r).Vivos := by
  by_cases rings : r ∈ s.armados
  · have exit : (s.tocou r).aoSair = s.aoSair := by
      unfold Compartilhado.tocou
      rw [if_pos rings]
    have shared : (s.tocou r).compartilhado = none := by
      unfold Compartilhado.tocou
      rw [if_pos rings]
    refine ⟨fun m h => ?_, fun m => ?_, exit ▸ alive.uma_vez⟩
    · rw [shared] at h
      cases h
    · rw [exit, chrome_tocou rings, alive.ao_sair m]
  · rw [tocou_surdo rings]
    exact alive

/-! ### The calls that wait -/

theorem Esperas.preparar (waits : s.Esperas) : s.prepararNavegador.1.Esperas := by
  unfold prepararNavegador
  split
  · exact waits
  · intro i n call
    obtain ⟨fechando, found⟩ := waits i n call
    exact ⟨fechando, by
      rw [List.getElem?_append_left (List.getElem?_eq_some_iff.mp found).1, found]⟩

theorem prepararNavegador_compartilhado (s : Compartilhado) :
    s.prepararNavegador.1.compartilhado = some s.prepararNavegador.2 := by
  unfold prepararNavegador
  split
  · assumption
  · rfl

theorem geracoes_preparar (s : Compartilhado) : s.prepararNavegador.1.geracoes = s.geracoes := by
  unfold prepararNavegador
  split <;> rfl

/-- What a call of `novaPagina` adds to the state after `prepararNavegador`. -/
theorem novaPagina_cases (s : Compartilhado) :
    (s.prepararNavegador.1.resolvido s.prepararNavegador.2 = true ∧
      s.novaPagina = ({ s.prepararNavegador.1 with
        geracoes := s.geracoes ++ [.esperando s.prepararNavegador.2] } : Compartilhado).pedirPagina
          s.geracoes.length s.prepararNavegador.2) ∨
    (s.prepararNavegador.1.resolvido s.prepararNavegador.2 = false ∧
      s.novaPagina = { s.prepararNavegador.1 with
        geracoes := s.geracoes ++ [.esperando s.prepararNavegador.2] }) := by
  unfold novaPagina
  cases ready : s.prepararNavegador.1.resolvido s.prepararNavegador.2 <;>
    simp [ready, geracoes_preparar]

theorem mesmos_novaPagina (s : Compartilhado) :
    MesmosNavegadores s.prepararNavegador.1 s.novaPagina := by
  rcases novaPagina_cases s with ⟨_, eq⟩ | ⟨_, eq⟩ <;> rw [eq] <;> exact ⟨rfl, rfl, rfl⟩

theorem Relogio.preparar (clock : s.Relogio) : s.prepararNavegador.1.Relogio := by
  unfold prepararNavegador
  split
  · exact clock
  · exact clock.of_eq rfl rfl rfl rfl

theorem Relogio.novaPagina (clock : s.Relogio) : s.novaPagina.Relogio := by
  have waiting : ({ s.prepararNavegador.1 with
      geracoes := s.geracoes ++ [.esperando s.prepararNavegador.2] } : Compartilhado).Relogio :=
    clock.preparar.of_eq rfl (by
      show (s.geracoes ++ [_]).countP _ = _
      rw [List.countP_append, geracoes_preparar]
      rfl) rfl rfl
  rcases novaPagina_cases s with ⟨_, eq⟩ | ⟨_, eq⟩ <;> rw [eq]
  · exact waiting.pedirPagina List.getElem?_concat_length
  · exact waiting

theorem Esperas.novaPagina (alive : s.Vivos) (waits : s.Esperas) : s.novaPagina.Esperas := by
  have shared := alive.preparar.compartilhado _ (prepararNavegador_compartilhado s)
  have before := waits.preparar
  intro i n call
  rcases novaPagina_cases s with ⟨_, eq⟩ | ⟨pending, eq⟩ <;> rw [eq] at call ⊢
  · rcases getElem?_moved call with ⟨_, other⟩ | ⟨_, old⟩
    · cases other
    · rcases getElem?_begun old with older | ⟨rfl, _⟩
      · exact before i n (by rw [geracoes_preparar, older])
      · exact absurd rfl ‹_ ≠ _›
  · rcases getElem?_begun call with old | ⟨_, fresh⟩
    · exact before i n (by rw [geracoes_preparar, old])
    · obtain rfl := Geracao.esperando.inj fresh
      rcases shared with launching | opened
      · exact ⟨false, launching⟩
      · rw [resolvido, opened] at pending
        cases pending

theorem Esperas.lancou (waits : s.Esperas) (n : Nat) : (s.lancou n).Esperas := by
  by_cases launching : ∃ fechando, s.navegadores[n]? = some ⟨.lancando, fechando⟩
  · obtain ⟨fechando, found⟩ := launching
    intro i m call
    rw [lancou_eq found, geracao_retomarTodos, Option.map_eq_some_iff] at call
    obtain ⟨g, old, went⟩ := call
    unfold seguiu at went
    split at went
    · cases went
    · subst went
      rename_i other
      have ne : m ≠ n := fun same => other (same ▸ rfl)
      rw [lancou_eq found, (mesmos_retomarTodos _ n).navegadores]
      show ∃ f, (s.navegadores.set n _)[m]? = _
      rw [List.getElem?_set_ne (Ne.symm ne)]
      exact waits i m old
  · rw [lancou_surdo launching]
    exact waits

theorem Esperas.naoLancou (waits : s.Esperas) (n : Nat) (mensagem : String) :
    (s.naoLancou n mensagem).Esperas := by
  unfold Compartilhado.naoLancou
  split
  · rename_i fechando found
    intro i m call
    obtain ⟨g, old, went⟩ := Option.map_eq_some_iff.mp (List.getElem?_map ▸ call)
    split at went
    · cases went
    · subst went
      rename_i other
      have ne : m ≠ n := fun same => other (same ▸ rfl)
      show ∃ f, (s.navegadores.set n _)[m]? = _
      rw [List.getElem?_set_ne (Ne.symm ne)]
      exact waits i m old
  · exact waits

theorem Esperas.desconectou (waits : s.Esperas) (n : Nat) : (s.desconectou n).Esperas := by
  unfold Compartilhado.desconectou
  split
  · rename_i fechando found
    intro i m call
    obtain ⟨f, launching⟩ := waits i m call
    have ne : n ≠ m := fun same => by
      subst same
      rw [found] at launching
      cases launching
    exact ⟨f, by rw [List.getElem?_set_ne ne, launching]⟩
  · exact waits

theorem Esperas.tocou (waits : s.Esperas) (r : Nat) : (s.tocou r).Esperas := by
  by_cases rings : r ∈ s.armados
  · intro i m call
    rw [chrome_tocou rings]
    refine waits i m ?_
    rw [← call]
    unfold Compartilhado.tocou
    rw [if_pos rings]
  · rw [tocou_surdo rings]
    exact waits

/-- A call that moved to another place than a wait. -/
theorem Esperas.moveu {s' : Compartilhado} {g : Geracao} (waits : s.Esperas)
    (calls : s'.geracoes = s.geracoes.set i g) (other : ∀ n, g ≠ .esperando n)
    (browsers : s'.navegadores = s.navegadores) : s'.Esperas := by
  intro j m call
  rw [calls] at call
  rw [browsers]
  rcases getElem?_moved call with ⟨_, same⟩ | ⟨_, old⟩
  · exact absurd same.symm (other m)
  · exact waits j m old

/-! ### One event -/

theorem Relogio.lancou (clock : s.Relogio) (n : Nat) : (s.lancou n).Relogio := by
  by_cases launching : ∃ fechando, s.navegadores[n]? = some ⟨.lancando, fechando⟩
  · obtain ⟨fechando, found⟩ := launching
    have opened : (s.comAberto n fechando).Relogio := clock.of_eq rfl rfl rfl rfl
    rw [lancou_eq found]
    exact opened.retomarTodos n
  · rw [lancou_surdo launching]
    exact clock

theorem Relogio.naoLancou (clock : s.Relogio) (n : Nat) (mensagem : String) :
    (s.naoLancou n mensagem).Relogio := by
  unfold Compartilhado.naoLancou
  split
  · refine clock.of_eq rfl ?_ rfl rfl
    show (s.geracoes.map _).countP _ = _
    rw [List.countP_map]
    refine List.countP_congr fun g _ => ?_
    by_cases waits : g = .esperando n
    · simp [waits, Geracao.emUso]
    · simp [waits]
  · exact clock

theorem Relogio.desconectou (clock : s.Relogio) (n : Nat) : (s.desconectou n).Relogio := by
  unfold Compartilhado.desconectou
  split
  · exact clock.of_eq rfl rfl rfl rfl
  · exact clock

theorem mesmos_abriuPagina (s : Compartilhado) (i : Nat) :
    MesmosNavegadores s (s.abriuPagina i) := by
  unfold abriuPagina
  split <;> exact ⟨rfl, rfl, rfl⟩

theorem mesmos_naoAbriuPagina (s : Compartilhado) (i : Nat) (erro : String) :
    MesmosNavegadores s (s.naoAbriuPagina i erro) := by
  unfold naoAbriuPagina
  split <;> exact ⟨rfl, rfl, rfl⟩

theorem mesmos_fechouPagina (s : Compartilhado) (i : Nat) :
    MesmosNavegadores s (s.fechouPagina i) := by
  unfold fechouPagina armarRelogio
  dsimp only
  split
  · split <;> exact ⟨rfl, rfl, rfl⟩
  · exact ⟨rfl, rfl, rfl⟩

/-- A page that opens, does not open or closes: the call that had it moved, and waits no more. -/
theorem moveu_pagina {s' : Compartilhado} (a : Acao)
    (page : a = .abriuPagina i ∨ (∃ erro, a = .naoAbriuPagina i erro) ∨ a = .fechouPagina i)
    (after : s' = s.agir a) :
    s' = s ∨ ∃ g n, s'.geracoes = s.geracoes.set i g ∧
      s.geracoes[i]?.bind Geracao.navegador = some n ∧ (∀ m, g ≠ .esperando m) ∧
        ∀ m, g.navegador = some m → m = n := by
  subst after
  rcases page with rfl | ⟨erro, rfl⟩ | rfl <;>
    simp only [agir, abriuPagina, naoAbriuPagina, fechouPagina, armarRelogio]
  · split
    · rename_i n call
      exact .inr ⟨.aberta n, n, rfl, by simp [call, Geracao.navegador], nofun,
        fun m h => (Option.some.inj h).symm⟩
    · exact .inl rfl
  · split
    · rename_i n call
      exact .inr ⟨.falhou erro, n, rfl, by simp [call, Geracao.navegador], nofun, nofun⟩
    · exact .inl rfl
  · split
    · rename_i n call
      refine .inr ⟨.fechada, n, ?_, by simp [call, Geracao.navegador], nofun, nofun⟩
      split <;> rfl
    · exact .inl rfl

theorem Esperas.pagina (waits : s.Esperas) (a : Acao)
    (page : a = .abriuPagina i ∨ (∃ erro, a = .naoAbriuPagina i erro) ∨ a = .fechouPagina i)
    (same : MesmosNavegadores s (s.agir a)) : (s.agir a).Esperas := by
  rcases moveu_pagina a page rfl with kept | ⟨g, n, calls, _, other, _⟩
  · rw [kept]
    exact waits
  · exact waits.moveu calls other same.navegadores

/-- Every event keeps the order. -/
theorem EmOrdem.agir (order : s.EmOrdem) (a : Acao) : (s.agir a).EmOrdem := by
  obtain ⟨clock, alive, waits⟩ := order
  cases a with
  | preparar => exact ⟨clock.preparar, alive.preparar, waits.preparar⟩
  | novaPagina =>
      exact ⟨clock.novaPagina, alive.preparar.of_mesmos (mesmos_novaPagina s),
        waits.novaPagina alive⟩
  | lancou n => exact ⟨clock.lancou n, alive.lancou n, waits.lancou n⟩
  | naoLancou n mensagem =>
      exact ⟨clock.naoLancou n mensagem, alive.naoLancou n mensagem, waits.naoLancou n mensagem⟩
  | desconectou n => exact ⟨clock.desconectou n, alive.desconectou n, waits.desconectou n⟩
  | abriuPagina i =>
      exact ⟨clock.abriuPagina i, alive.of_mesmos (mesmos_abriuPagina s i),
        waits.pagina (.abriuPagina i) (.inl rfl) (mesmos_abriuPagina s i)⟩
  | naoAbriuPagina i erro =>
      exact ⟨clock.naoAbriuPagina i erro, alive.of_mesmos (mesmos_naoAbriuPagina s i erro),
        waits.pagina (.naoAbriuPagina i erro) (.inr (.inl ⟨erro, rfl⟩))
          (mesmos_naoAbriuPagina s i erro)⟩
  | fechouPagina i =>
      exact ⟨clock.fechouPagina i, alive.of_mesmos (mesmos_fechouPagina s i),
        waits.pagina (.fechouPagina i) (.inr (.inr rfl)) (mesmos_fechouPagina s i)⟩
  | tocou r => exact ⟨clock.tocou r, alive.tocou r, waits.tocou r⟩

theorem emOrdem_inicial : inicial.EmOrdem where
  contagem := rfl
  so_o_ultimo := nofun
  um := List.nodup_nil
  parado := fun armed => absurd rfl armed
  compartilhado := nofun
  ao_sair := by simp [inicial]
  uma_vez := List.nodup_nil
  esperas := nofun

/-! ### Pages of a browser that the clock took -/

/-- A clock rings while no call awaits the shared browser. -/
def TocaSemEspera (s : Compartilhado) (a : Acao) : Prop :=
  ∀ r, a = .tocou r → r ∈ s.armados → ∀ n, s.compartilhado = some n →
    ∀ i : Nat, s.geracoes[i]? ≠ some (.esperando n)

/-- Browser `n` was taken by the clock. -/
def levado (s : Compartilhado) (n : Nat) : Prop :=
  ∃ chrome, s.navegadores[n]? = some ⟨chrome, true⟩

theorem semInterrupcao_iff_levado :
    s.SemInterrupcao ↔ ∀ (i : Nat) (g : Geracao) (n : Nat), s.geracoes[i]? = some g →
      g.navegador = some n → ¬ s.levado n := by
  constructor
  · rintro whole i g n call needs ⟨chrome, found⟩
    exact absurd (whole i g n call needs _ found) (by simp)
  · intro free i g n call needs navegador found
    by_contra taken
    refine free i g n call needs ⟨navegador.chrome, ?_⟩
    rw [found, ← Bool.of_not_eq_false taken]

theorem levado_of_set {navegadores : List Navegador} {chrome after : Chrome} {fechando : Bool}
    (found : s.navegadores[n]? = some ⟨chrome, fechando⟩)
    (moved : navegadores = s.navegadores.set n ⟨after, fechando⟩)
    (taken : ∃ c, navegadores[m]? = some ⟨c, true⟩) : s.levado m := by
  obtain ⟨c, h⟩ := taken
  rw [moved] at h
  rcases getElem?_moved h with ⟨rfl, same⟩ | ⟨_, old⟩
  · exact ⟨chrome, by rw [found, (Navegador.mk.inj same).2]⟩
  · exact ⟨c, old⟩

theorem levado_of_mesmos {s' : Compartilhado} (same : MesmosNavegadores s s')
    (taken : s'.levado m) : s.levado m := by
  obtain ⟨c, h⟩ := taken
  exact ⟨c, same.navegadores ▸ h⟩

theorem levado_preparar (taken : s.prepararNavegador.1.levado m) : s.levado m := by
  unfold prepararNavegador at taken
  split at taken
  · exact taken
  · obtain ⟨c, h⟩ := taken
    rcases getElem?_begun h with old | ⟨_, fresh⟩
    · exact ⟨c, old⟩
    · cases fresh

/-- Only a clock that rings takes a browser, and it takes the shared one. -/
theorem levado_agir {a : Acao} (taken : (s.agir a).levado m) :
    s.levado m ∨ s.compartilhado = some m ∧ ∃ r, a = .tocou r ∧ r ∈ s.armados := by
  cases a with
  | preparar => exact .inl (levado_preparar taken)
  | novaPagina => exact .inl (levado_preparar (levado_of_mesmos (mesmos_novaPagina s) taken))
  | lancou n =>
      by_cases launching : ∃ fechando, s.navegadores[n]? = some ⟨.lancando, fechando⟩
      · obtain ⟨fechando, found⟩ := launching
        simp only [agir, lancou_eq found] at taken
        exact .inl (levado_of_set found rfl (levado_of_mesmos (mesmos_retomarTodos _ n) taken))
      · rw [agir, lancou_surdo launching] at taken
        exact .inl taken
  | naoLancou n mensagem =>
      simp only [agir, naoLancou] at taken
      split at taken
      · rename_i fechando found
        exact .inl (levado_of_set found rfl taken)
      · exact .inl taken
  | desconectou n =>
      simp only [agir, desconectou] at taken
      split at taken
      · rename_i fechando found
        exact .inl (levado_of_set found rfl taken)
      · exact .inl taken
  | abriuPagina i => exact .inl (levado_of_mesmos (mesmos_abriuPagina s i) taken)
  | naoAbriuPagina i erro => exact .inl (levado_of_mesmos (mesmos_naoAbriuPagina s i erro) taken)
  | fechouPagina i => exact .inl (levado_of_mesmos (mesmos_fechouPagina s i) taken)
  | tocou r =>
      by_cases rings : r ∈ s.armados
      · by_cases shared : s.compartilhado = some m
        · exact .inr ⟨shared, r, rfl, rings⟩
        · obtain ⟨c, h⟩ := taken
          rw [agir, navegadores_tocou rings] at h
          simp only [if_neg shared, Option.map_id'] at h
          exact .inl ⟨c, h⟩
      · rw [agir, tocou_surdo rings] at taken
        exact .inl taken

/-- A call needs the browser it needed before, or it just came and needs the shared one. -/
theorem precisa_agir {a : Acao} {g : Geracao} (call : (s.agir a).geracoes[i]? = some g)
    (needs : g.navegador = some n) :
    (∃ before, s.geracoes[i]? = some before ∧ before.navegador = some n) ∨
      (a = .novaPagina ∧ s.prepararNavegador.2 = n) := by
  have pagina : ∀ j, (a = .abriuPagina j ∨ (∃ erro, a = .naoAbriuPagina j erro) ∨
      a = .fechouPagina j) →
      ∃ before, s.geracoes[i]? = some before ∧ before.navegador = some n := by
    intro j page
    rcases moveu_pagina a page rfl with kept | ⟨h, m, calls, had, _, only⟩
    · rw [kept] at call
      exact ⟨g, call, needs⟩
    · rw [calls] at call
      rcases getElem?_moved call with ⟨rfl, rfl⟩ | ⟨_, old⟩
      · obtain ⟨before, found, had⟩ := Option.bind_eq_some_iff.mp had
        exact ⟨before, found, by rw [had, only n needs]⟩
      · exact ⟨g, old, needs⟩
  cases a with
  | preparar =>
      rw [agir, geracoes_preparar] at call
      exact .inl ⟨g, call, needs⟩
  | novaPagina =>
      simp only [agir] at call
      rcases novaPagina_cases s with ⟨_, eq⟩ | ⟨_, eq⟩ <;> rw [eq] at call
      · rcases getElem?_moved call with ⟨_, rfl⟩ | ⟨ne, old⟩
        · exact .inr ⟨rfl, Option.some.inj needs⟩
        · rcases getElem?_begun old with older | ⟨same, _⟩
          · exact .inl ⟨g, older, needs⟩
          · exact absurd same ne
      · rcases getElem?_begun call with old | ⟨_, rfl⟩
        · exact .inl ⟨g, old, needs⟩
        · exact .inr ⟨rfl, Option.some.inj needs⟩
  | lancou m =>
      by_cases launching : ∃ fechando, s.navegadores[m]? = some ⟨.lancando, fechando⟩
      · obtain ⟨fechando, found⟩ := launching
        rw [agir, lancou_eq found, geracao_retomarTodos, Option.map_eq_some_iff] at call
        obtain ⟨before, old, went⟩ := call
        refine .inl ⟨before, old, ?_⟩
        unfold seguiu at went
        split at went
        · rename_i waits
          rw [waits, ← needs, ← went]
          rfl
        · rw [went, needs]
      · rw [agir, lancou_surdo launching] at call
        exact .inl ⟨g, call, needs⟩
  | naoLancou m mensagem =>
      simp only [agir, naoLancou] at call
      split at call
      · obtain ⟨before, old, went⟩ := Option.map_eq_some_iff.mp (List.getElem?_map ▸ call)
        split at went
        · subst went
          cases needs
        · exact .inl ⟨before, old, went ▸ needs⟩
      · exact .inl ⟨g, call, needs⟩
  | desconectou m =>
      simp only [agir, desconectou] at call
      split at call <;> exact .inl ⟨g, call, needs⟩
  | abriuPagina j => exact .inl (pagina j (.inl rfl))
  | naoAbriuPagina j erro => exact .inl (pagina j (.inr (.inl ⟨erro, rfl⟩)))
  | fechouPagina j => exact .inl (pagina j (.inr (.inr rfl)))
  | tocou r =>
      simp only [agir, tocou] at call
      split at call <;> exact .inl ⟨g, call, needs⟩

/-- The browser a call gets was not taken. -/
theorem Vivos.not_levado (alive : s.Vivos) (shared : s.compartilhado = some n) : ¬ s.levado n := by
  rintro ⟨c, found⟩
  rcases alive.compartilhado n shared with h | h <;> rw [found] at h <;> cases h

theorem SemInterrupcao.agir (order : s.EmOrdem) (whole : s.SemInterrupcao) {a : Acao}
    (guard : s.TocaSemEspera a) : (s.agir a).SemInterrupcao := by
  rw [semInterrupcao_iff_levado] at whole ⊢
  intro i g n call needs taken
  rcases levado_agir taken with before | ⟨shared, r, rfl, rings⟩
  · rcases precisa_agir call needs with ⟨h, old, had⟩ | ⟨rfl, rfl⟩
    · exact whole i h n old had before
    · refine order.toVivos.preparar.not_levado (prepararNavegador_compartilhado s) ?_
      exact levado_of_mesmos (mesmos_novaPagina s) taken
  · -- at zero pages only a wait needs the browser
    have idle : ∀ h : Geracao, s.geracoes[i]? = some h → h.emUso = false := fun h old =>
      order.ninguem_em_uso (List.ne_nil_of_mem rings) old
    rcases precisa_agir call needs with ⟨h, old, had⟩ | ⟨fresh, _⟩
    · cases h with
      | esperando m =>
          obtain rfl := Option.some.inj had
          exact guard r rfl rings m shared i old
      | abrindo m => exact absurd (idle _ old) (by simp [Geracao.emUso])
      | aberta m => exact absurd (idle _ old) (by simp [Geracao.emUso])
      | fechada => cases had
      | falhou erro => cases had
    · cases fresh

theorem TocaSemEspera.of_agir (order : s.EmOrdem) {a : Acao}
    (whole : (s.agir a).SemInterrupcao) : s.TocaSemEspera a := by
  rintro r rfl rings n shared i waits
  have calls : (s.agir (.tocou r)).geracoes = s.geracoes := by
    simp only [agir, tocou, if_pos rings]
  have taken : (s.agir (.tocou r)).levado n := by
    unfold levado
    rw [agir, navegadores_tocou rings]
    rcases order.toVivos.compartilhado n shared with found | found <;>
      exact ⟨_, by rw [found, Option.map_some, if_pos shared]⟩
  exact semInterrupcao_iff_levado.mp whole i _ n (calls ▸ waits) rfl taken

/-! ### Browsers that are lost -/

/-- A browser ends, well or badly, while no other one is shared. -/
def AcabaSemOutro (s : Compartilhado) (a : Acao) : Prop :=
  ∀ n, ((∃ mensagem, a = .naoLancou n mensagem) ∧
      ∃ fechando, s.navegadores[n]? = some ⟨.lancando, fechando⟩) ∨
      (a = .desconectou n ∧ ∃ fechando, s.navegadores[n]? = some ⟨.aberto, fechando⟩) →
    s.compartilhado = none ∨ s.compartilhado = some n

theorem vivo_iff_of_mesmos {s' : Compartilhado} (same : MesmosNavegadores s s') :
    s'.vivo m ↔ s.vivo m := by
  unfold vivo
  rw [same.navegadores]

theorem SemChromePerdido.of_mesmos {s' : Compartilhado} (kept : s.SemChromePerdido)
    (same : MesmosNavegadores s s') : s'.SemChromePerdido := fun n alive => by
  rw [same.compartilhado]
  exact kept n ((vivo_iff_of_mesmos same).mp alive)

theorem SemChromePerdido.preparar (kept : s.SemChromePerdido) :
    s.prepararNavegador.1.SemChromePerdido := by
  unfold prepararNavegador
  split
  · exact kept
  · rename_i nobody
    intro n alive
    have last : n = s.navegadores.length := by
      by_contra older
      have old : s.vivo n := by
        rcases alive with h | h <;> rcases getElem?_begun h with old | ⟨same, _⟩
        · exact .inl old
        · exact absurd same older
        · exact .inr old
        · exact absurd same older
      rw [kept n old] at nobody
      cases nobody
    rw [last]

/-- A browser that ended is not alive, and the others are as they were. -/
theorem vivo_acabou {s' : Compartilhado} {before after : Navegador}
    (found : s.navegadores[n]? = some before)
    (moved : s'.navegadores = s.navegadores.set n after)
    (ended : after.chrome ≠ .lancando ∧ after.chrome ≠ .aberto) :
    s'.vivo m ↔ m ≠ n ∧ s.vivo m := by
  unfold vivo
  rw [moved]
  by_cases same : m = n
  · subst same
    rw [getElem?_moved_self found]
    have dead : ¬ (some after = some (⟨.lancando, false⟩ : Navegador) ∨
        some after = some ⟨.aberto, false⟩) := by
      rintro (h | h)
      · exact ended.1 (by rw [Option.some.inj h])
      · exact ended.2 (by rw [Option.some.inj h])
    exact iff_of_false dead fun h => h.1 rfl
  · rw [List.getElem?_set_ne (Ne.symm same)]
    exact (and_iff_right same).symm

/-- When a browser ends the shared one is let go, whichever it is. -/
theorem semChromePerdido_acabou {s' : Compartilhado} {before after : Navegador} (alive : s.Vivos)
    (kept : s.SemChromePerdido) (found : s.navegadores[n]? = some before)
    (moved : s'.navegadores = s.navegadores.set n after)
    (ended : after.chrome ≠ .lancando ∧ after.chrome ≠ .aberto)
    (dropped : s'.compartilhado = none) :
    s'.SemChromePerdido ↔ s.compartilhado = none ∨ s.compartilhado = some n := by
  constructor
  · intro after_kept
    cases shared : s.compartilhado with
    | none => exact .inl rfl
    | some m =>
        by_cases same : m = n
        · exact .inr (same ▸ rfl)
        · have lost := after_kept m
            ((vivo_acabou found moved ended).mpr ⟨same, alive.compartilhado m shared⟩)
          rw [dropped] at lost
          cases lost
  · intro only m lives
    obtain ⟨ne, lived⟩ := (vivo_acabou found moved ended).mp lives
    have shared := kept m lived
    rcases only with none_shared | one_shared
    · rw [none_shared] at shared
      cases shared
    · exact absurd (Option.some.inj (shared.symm.trans one_shared)) ne

theorem SemChromePerdido.lancou (kept : s.SemChromePerdido) (n : Nat) :
    (s.lancou n).SemChromePerdido := by
  by_cases launching : ∃ fechando, s.navegadores[n]? = some ⟨.lancando, fechando⟩
  · obtain ⟨fechando, found⟩ := launching
    rw [lancou_eq found]
    suffices opened : (s.comAberto n fechando).SemChromePerdido from
      opened.of_mesmos (mesmos_retomarTodos _ n)
    refine fun m alive => kept m ?_
    rcases alive with h | h <;> rcases getElem?_moved h with ⟨rfl, same⟩ | ⟨_, old⟩
    · cases same
    · exact .inl old
    · rw [← (Navegador.mk.inj same).2] at found
      exact .inl found
    · exact .inr old
  · rw [lancou_surdo launching]
    exact kept

theorem SemChromePerdido.tocou (kept : s.SemChromePerdido) (r : Nat) :
    (s.tocou r).SemChromePerdido := by
  by_cases rings : r ∈ s.armados
  · intro m alive
    -- the clock took the shared one, and no other was alive
    exfalso
    unfold vivo at alive
    rw [navegadores_tocou rings] at alive
    by_cases shared : s.compartilhado = some m
    · cases found : s.navegadores[m]? <;> simp [found, shared] at alive
    · simp only [if_neg shared, Option.map_id'] at alive
      exact shared (kept m alive)
  · rw [tocou_surdo rings]
    exact kept

/-- One event loses no browser exactly when none ends while another is shared. -/
theorem semChromePerdido_agir (order : s.EmOrdem) (kept : s.SemChromePerdido) (a : Acao) :
    (s.agir a).SemChromePerdido ↔ s.AcabaSemOutro a := by
  have quiet : (∀ n, (∀ mensagem, a ≠ .naoLancou n mensagem) ∧ a ≠ .desconectou n) →
      (s.agir a).SemChromePerdido → ((s.agir a).SemChromePerdido ↔ s.AcabaSemOutro a) := by
    intro other after
    refine iff_of_true after fun n ends => ?_
    rcases ends with ⟨⟨mensagem, failed⟩, _⟩ | ⟨gone, _⟩
    · exact absurd failed ((other n).1 mensagem)
    · exact absurd gone (other n).2
  cases a with
  | preparar => exact quiet (fun _ => ⟨nofun, nofun⟩) kept.preparar
  | novaPagina =>
      exact quiet (fun _ => ⟨nofun, nofun⟩) (kept.preparar.of_mesmos (mesmos_novaPagina s))
  | lancou n => exact quiet (fun _ => ⟨nofun, nofun⟩) (kept.lancou n)
  | abriuPagina i =>
      exact quiet (fun _ => ⟨nofun, nofun⟩) (kept.of_mesmos (mesmos_abriuPagina s i))
  | naoAbriuPagina i erro =>
      exact quiet (fun _ => ⟨nofun, nofun⟩) (kept.of_mesmos (mesmos_naoAbriuPagina s i erro))
  | fechouPagina i =>
      exact quiet (fun _ => ⟨nofun, nofun⟩) (kept.of_mesmos (mesmos_fechouPagina s i))
  | tocou r => exact quiet (fun _ => ⟨nofun, nofun⟩) (kept.tocou r)
  | naoLancou n mensagem =>
      simp only [agir, AcabaSemOutro, naoLancou]
      split
      · rename_i fechando found
        rw [semChromePerdido_acabou order.toVivos kept found rfl (by simp) rfl]
        constructor
        · rintro only m (⟨⟨_, same⟩, _⟩ | ⟨other, _⟩)
          · cases same
            exact only
          · cases other
        · exact fun guard => guard n (.inl ⟨⟨mensagem, rfl⟩, fechando, found⟩)
      · rename_i idle
        refine iff_of_true kept ?_
        rintro m (⟨⟨_, same⟩, fechando, found⟩ | ⟨other, _⟩)
        · cases same
          exact absurd found (idle fechando)
        · cases other
  | desconectou n =>
      simp only [agir, AcabaSemOutro, desconectou]
      split
      · rename_i fechando found
        rw [semChromePerdido_acabou order.toVivos kept found rfl (by simp) rfl]
        constructor
        · rintro only m (⟨⟨_, other⟩, _⟩ | ⟨same, _⟩)
          · cases other
          · cases same
            exact only
        · exact fun guard => guard n (.inr ⟨rfl, fechando, found⟩)
      · rename_i idle
        refine iff_of_true kept ?_
        rintro m (⟨⟨_, other⟩, _⟩ | ⟨same, fechando, found⟩)
        · cases other
        · cases same
          exact absurd found (idle fechando)

/-! ### Browsers left open -/

/-- A launch of the shared browser that ends with nobody waiting for it, at zero pages and no clock,
or the only page that fails to open on the shared browser: neither happens. -/
structure FicaQuemFeche (s : Compartilhado) (a : Acao) : Prop where
  lancou : ∀ n, a = .lancou n → s.compartilhado = some n →
    s.navegadores[n]? = some ⟨.lancando, false⟩ →
    (∃ i : Nat, s.geracoes[i]? = some (.esperando n)) ∨ 0 < s.paginasAbertas ∨ s.armados ≠ []
  naoAbriu : ∀ i erro m, a = .naoAbriuPagina i erro → s.geracoes[i]? = some (.abrindo m) →
    s.paginasAbertas = 1 →
    ∀ n, s.compartilhado = some n → s.navegadores[n]? ≠ some ⟨.aberto, false⟩

theorem Relogio.paginas_pos_iff (clock : s.Relogio) :
    0 < s.paginasAbertas ↔ ∃ (i : Nat) (g : Geracao), s.geracoes[i]? = some g ∧ g.emUso := by
  rw [clock.contagem, Int.natCast_pos, List.countP_pos_iff]
  constructor
  · rintro ⟨g, mem, used⟩
    obtain ⟨i, call⟩ := List.mem_iff_getElem?.mp mem
    exact ⟨i, g, call, used⟩
  · rintro ⟨i, g, call, used⟩
    exact ⟨g, List.mem_of_getElem? call, used⟩

theorem retomarTodos_of_ninguem (nobody : ∀ i : Nat, s.geracoes[i]? ≠ some (.esperando n)) :
    s.retomarTodos n = s := by
  refine retomarTodos_keep (P := fun s' => s' = s) (fun s' i same => ?_) rfl
  subst same
  exact if_neg (nobody i)

/-- Whether something will close the browser, once those who awaited browser `n` went on. -/
theorem sobra_retomarTodos (clock : s.Relogio) :
    (0 < (s.retomarTodos n).paginasAbertas ∨ (s.retomarTodos n).armados ≠ []) ↔
      (∃ i : Nat, s.geracoes[i]? = some (.esperando n)) ∨ 0 < s.paginasAbertas ∨
        s.armados ≠ [] := by
  by_cases somebody : ∃ i : Nat, s.geracoes[i]? = some (.esperando n)
  · obtain ⟨i, call⟩ := somebody
    refine iff_of_true (.inl ?_) (.inl ⟨i, call⟩)
    refine (clock.retomarTodos n).paginas_pos_iff.mpr ⟨i, .abrindo n, ?_, rfl⟩
    rw [geracao_retomarTodos, call]
    simp [seguiu]
  · rw [retomarTodos_of_ninguem (not_exists.mp somebody)]
    simp only [somebody, false_or]

theorem Recolhido.preparar (kept : s.Recolhido) : s.prepararNavegador.1.Recolhido := by
  unfold prepararNavegador
  split
  · exact kept
  · intro n shared opened
    obtain rfl := Option.some.inj shared
    rw [List.getElem?_concat_length] at opened
    cases opened

theorem Recolhido.novaPagina (order : s.EmOrdem) : s.novaPagina.Recolhido := by
  intro n shared opened
  have after := (order.agir .novaPagina).toRelogio
  have clock := order.preparar
  rw [(mesmos_novaPagina s).compartilhado, prepararNavegador_compartilhado] at shared
  obtain rfl := Option.some.inj shared
  rw [(mesmos_novaPagina s).navegadores] at opened
  refine .inl (after.paginas_pos_iff.mpr
    ⟨s.geracoes.length, .abrindo s.prepararNavegador.2, ?_, rfl⟩)
  rcases novaPagina_cases s with ⟨_, eq⟩ | ⟨pending, _⟩
  · show s.novaPagina.geracoes[s.geracoes.length]? = _
    rw [eq]
    exact getElem?_moved_self List.getElem?_concat_length
  · rw [resolvido, opened] at pending
    cases pending

theorem recolhido_of_mesmos {s' : Compartilhado} (same : MesmosNavegadores s s') :
    s'.Recolhido ↔ ∀ n, s.compartilhado = some n → s.navegadores[n]? = some ⟨.aberto, false⟩ →
      0 < s'.paginasAbertas ∨ s'.armados ≠ [] := by
  unfold Recolhido
  rw [same.compartilhado, same.navegadores]

theorem recolhido_lancou {fechando : Bool} (order : s.EmOrdem) (kept : s.Recolhido)
    (found : s.navegadores[n]? = some ⟨.lancando, fechando⟩) :
    (s.lancou n).Recolhido ↔ (s.compartilhado = some n →
      (∃ i : Nat, s.geracoes[i]? = some (.esperando n)) ∨ 0 < s.paginasAbertas ∨
        s.armados ≠ []) := by
  have clock : (s.comAberto n fechando).Relogio := order.toRelogio.of_eq rfl rfl rfl rfl
  rw [lancou_eq found, recolhido_of_mesmos (mesmos_retomarTodos _ n), sobra_retomarTodos clock]
  constructor
  · intro after shared
    refine after n shared ?_
    have mine : fechando = false := by
      rcases order.toVivos.compartilhado n shared with h | h <;> rw [found] at h <;> cases h
      rfl
    rw [← mine]
    exact getElem?_moved_self found
  · intro enough m shared opened
    by_cases same : m = n
    · exact enough (same ▸ shared)
    · rcases getElem?_moved opened with ⟨here, _⟩ | ⟨_, old⟩
      · exact absurd here same
      · exact .inr (kept m shared old)

/-- One event leaves no browser open for good exactly when it is none of the two. -/
theorem recolhido_agir (order : s.EmOrdem) (kept : s.Recolhido) (a : Acao) :
    (s.agir a).Recolhido ↔ s.FicaQuemFeche a := by
  have let_go : (s.agir a).compartilhado = none → (s.agir a).Recolhido := by
    intro nobody n shared
    rw [nobody] at shared
    cases shared
  cases a with
  | preparar => exact iff_of_true kept.preparar ⟨nofun, nofun⟩
  | novaPagina => exact iff_of_true (Recolhido.novaPagina order) ⟨nofun, nofun⟩
  | lancou n =>
      by_cases launching : ∃ fechando, s.navegadores[n]? = some ⟨.lancando, fechando⟩
      · obtain ⟨fechando, found⟩ := launching
        rw [agir, recolhido_lancou order kept found]
        constructor
        · exact fun enough => ⟨fun m same shared _ => by
            cases same
            exact enough shared, nofun⟩
        · intro guard shared
          refine guard.lancou n rfl shared ?_
          rcases order.toVivos.compartilhado n shared with h | h
          · exact h
          · rw [found] at h
            cases h
      · rw [agir, lancou_surdo launching]
        refine iff_of_true kept ⟨fun m same _ found => ?_, nofun⟩
        cases same
        exact absurd ⟨false, found⟩ launching
  | naoLancou n mensagem =>
      refine iff_of_true ?_ ⟨nofun, nofun⟩
      by_cases launching : ∃ fechando, s.navegadores[n]? = some ⟨.lancando, fechando⟩
      · obtain ⟨fechando, found⟩ := launching
        refine let_go ?_
        simp only [agir, naoLancou, found]
      · simp only [agir, naoLancou]
        split
        · rename_i fechando found
          exact absurd ⟨fechando, found⟩ launching
        · exact kept
  | desconectou n =>
      refine iff_of_true ?_ ⟨nofun, nofun⟩
      simp only [agir, desconectou] at let_go ⊢
      split
      · exact fun m shared => by cases shared
      · exact kept
  | abriuPagina i =>
      refine iff_of_true ?_ ⟨nofun, nofun⟩
      refine (recolhido_of_mesmos (mesmos_abriuPagina s i)).mpr fun n shared opened => ?_
      have before := kept n shared opened
      simp only [abriuPagina]
      split <;> exact before
  | naoAbriuPagina i erro =>
      rw [agir, recolhido_of_mesmos (mesmos_naoAbriuPagina s i erro)]
      by_cases asked : ∃ m, s.geracoes[i]? = some (.abrindo m)
      · obtain ⟨m, call⟩ := asked
        have busy : 0 < s.paginasAbertas := order.paginas_pos_iff.mpr ⟨i, _, call, rfl⟩
        have quiet : s.armados = [] := order.armados_nil (by omega)
        have failed : s.naoAbriuPagina i erro = { s with
            paginasAbertas := s.paginasAbertas - 1
            geracoes := s.geracoes.set i (.falhou erro) } := by
          simp only [naoAbriuPagina, call]
        rw [failed]
        constructor
        · intro after
          refine ⟨nofun, fun j erro' m' same found only n shared opened => ?_⟩
          rcases after n shared opened with more | armed
          · have : s.paginasAbertas - 1 = 0 := by omega
            exact absurd more (by simp [this])
          · exact armed quiet
        · intro guard n shared opened
          refine .inl ?_
          have several : s.paginasAbertas ≠ 1 := fun only =>
            guard.naoAbriu i erro m rfl call only n shared opened
          show 0 < s.paginasAbertas - 1
          omega
      · have idle : s.naoAbriuPagina i erro = s := by
          simp only [naoAbriuPagina]
          split
          · rename_i m call
            exact absurd ⟨m, call⟩ asked
          · rfl
        rw [idle]
        refine iff_of_true kept ⟨nofun, fun j erro' m same found => ?_⟩
        cases same
        exact absurd ⟨m, found⟩ asked
  | fechouPagina i =>
      refine iff_of_true ?_ ⟨nofun, nofun⟩
      refine (recolhido_of_mesmos (mesmos_fechouPagina s i)).mpr fun n shared opened => ?_
      have before := kept n shared opened
      simp only [fechouPagina]
      split
      · split
        · exact .inl ‹_›
        · exact .inr (by simp [armarRelogio])
      · exact before
  | tocou r =>
      refine iff_of_true ?_ ⟨nofun, nofun⟩
      by_cases rings : r ∈ s.armados
      · exact let_go (by simp only [agir, tocou, if_pos rings])
      · rw [agir, tocou_surdo rings]
        exact kept

end Compartilhado

/-! ### Whole runs -/

open Compartilhado

/-- In every interleaving the count of open pages is exact, at most one clock runs and only while no
page is open or being opened, and the browsers killed at the exit are those connected. -/
theorem chrome_em_ordem (acoes : List Compartilhado.Acao) :
    Always agir EmOrdem inicial acoes :=
  always_of_step (fun _ a order => order.agir a) emOrdem_inicial acoes

/-- No call waits for a browser, asks it for a page or uses one that the clock took, exactly in the
runs where the clock never rings while a call awaits the launch of the shared browser. -/
theorem sem_interrupcao_iff (acoes : List Compartilhado.Acao) :
    Always agir SemInterrupcao inicial acoes ↔ EachStep agir TocaSemEspera inicial acoes :=
  always_iff_eachStep_of_invariant (I := fun s : Compartilhado => s.EmOrdem ∧ s.SemInterrupcao)
    (fun _ inv => inv.2) (fun _ a inv guard => ⟨inv.1.agir a, inv.2.agir inv.1 guard⟩)
    (fun _ _ inv after => TocaSemEspera.of_agir inv.1 after) ⟨emOrdem_inicial, nofun⟩

/-- Every browser that is open, or about to be, is the shared one or the clock took it, exactly in
the runs where none ends while another one is shared. -/
theorem sem_chrome_perdido_iff (acoes : List Compartilhado.Acao) :
    Always agir SemChromePerdido inicial acoes ↔ EachStep agir AcabaSemOutro inicial acoes :=
  always_iff_eachStep_of_invariant (I := fun s : Compartilhado => s.EmOrdem ∧ s.SemChromePerdido)
    (fun _ inv => inv.2)
    (fun _ a inv guard => ⟨inv.1.agir a, (semChromePerdido_agir inv.1 inv.2 a).mpr guard⟩)
    (fun _ a inv after => (semChromePerdido_agir inv.1 inv.2 a).mp after)
    ⟨emOrdem_inicial, by simp [SemChromePerdido, vivo, inicial]⟩

/-- A generation that comes after the clock rang and before the closed browser is gone loses its
own. -/
example : ¬ (runFrom agir inicial [.novaPagina, .lancou 0, .abriuPagina 0, .fechouPagina 0,
    .tocou 0, .novaPagina, .desconectou 0, .lancou 1]).SemChromePerdido :=
  fun kept => absurd (kept 1 (.inr rfl)) (by decide)

/-- The shared browser, once open, always has a page in use or a clock that will close it, exactly
in the runs where no launch of the browser that is shared ends with nobody waiting for it, no page
and no clock, and no only page fails to open while the shared browser is open. -/
theorem recolhido_iff (acoes : List Compartilhado.Acao) :
    Always agir Recolhido inicial acoes ↔ EachStep agir FicaQuemFeche inicial acoes :=
  always_iff_eachStep_of_invariant (I := fun s : Compartilhado => s.EmOrdem ∧ s.Recolhido)
    (fun _ inv => inv.2)
    (fun _ a inv guard => ⟨inv.1.agir a, (recolhido_agir inv.1 inv.2 a).mpr guard⟩)
    (fun _ a inv after => (recolhido_agir inv.1 inv.2 a).mp after)
    ⟨emOrdem_inicial, nofun⟩

end IccvBackend
