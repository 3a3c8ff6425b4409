/-
Module: IccvBackend.Proofs.MessageQueue
Purpose: The messages of a church leave one at a time, in the order they were asked for, with a
  pause between them, and none of them stops those after it.
Trusted boundary: none
Main exports: FilaDeEnvio.EmVez, FilaDeEnvio.ComPausa, FilaDeEnvio.Termina, filaDeEnvio_run
-/
import IccvBackend.Lib.Transitions
import IccvBackend.Whatsapp.FilaDeEnvio

namespace IccvBackend

open Lib

namespace FilaDeEnvio

variable {f : FilaDeEnvio} {k : Nat} {m : Mensagem}

/-! ### The law -/

/-- A message leaves its place only when all asked for before it are over. -/
def EmVez (f : FilaDeEnvio) : Prop := InTurn Mensagem.etapa f.mensagens

/-- After a message that was sent, none leaves before the shortest pause is over. -/
def ComPausa (f : FilaDeEnvio) : Prop :=
  ∀ (i j : Nat) (a b : Mensagem) (socket : Nat) (chegou saiu : Nat), i < j →
    f.mensagens[i]? = some a → f.mensagens[j]? = some b → a.chegada = some chegou →
      b.saida = some (socket, saiu) → chegou + intervaloMinimo ≤ saiu

/-- A message whose turn it is is over after the longest pause and one answer, whatever became of
those before it and whatever the answer. -/
def Termina (f : FilaDeEnvio) : Prop :=
  ∀ k m, f.mensagens[k]? = some m →
    (∀ i a, i < k → f.mensagens[i]? = some a → a.etapa = .settled) → ∀ sorteio enviou,
      ∃ depois, (runFrom agir f [.comecar k sorteio, .passar intervaloMaximo, .acordar k,
        .responder k enviou]).mensagens[k]? = some depois ∧ depois.etapa = .settled

/-- What is kept besides the turns: `ultimoEnvioEm` is no older than any message sent and no later
than now, and a message waits for a time that is past the pause and not far. -/
structure NoRelogio (f : FilaDeEnvio) : Prop where
  ultimo : f.ultimoEnvioEm ≤ f.agora
  desde : 0 < f.agora
  chegadas : ∀ m ∈ f.mensagens, ∀ chegou, m.chegada = some chegou →
    0 < chegou ∧ chegou ≤ f.ultimoEnvioEm
  esperas : ∀ m ∈ f.mensagens, ∀ socket ate, m.fase = .esperando socket ate →
    f.ultimoEnvioEm + intervaloMinimo ≤ ate ∧ ate < f.ultimoEnvioEm + intervaloMaximo

structure EmDia (f : FilaDeEnvio) : Prop where
  vez : f.EmVez
  pausa : f.ComPausa
  relogio : f.NoRelogio

/-! ### One message moves -/

theorem vez_iff : f.vez k = true ↔
    ∀ i a, i < k → f.mensagens[i]? = some a → a.etapa = .settled := by
  simp only [vez, List.all_eq_true, decide_eq_true_eq]
  constructor
  · intro all i a less here
    refine all a (List.mem_of_getElem? (i := i) ?_)
    rw [List.getElem?_take_of_lt less]
    exact here
  · intro all m mem
    obtain ⟨i, here⟩ := List.mem_iff_getElem?.mp mem
    have less : i < k := by
      by_contra more
      rw [List.getElem?_eq_none (by rw [List.length_take]; omega)] at here
      cases here
    rw [List.getElem?_take_of_lt less] at here
    exact all i m less here

/-- A message that left nothing and was not sent has no part in the pauses. -/
theorem ComPausa.mover (pause : f.ComPausa) {fase : FaseDaMensagem}
    (sent : ∀ chegou, (Mensagem.chegada { m with fase := fase }) = some chegou →
      ∀ j b socket saiu, k < j → f.mensagens[j]? = some b → b.saida = some (socket, saiu) →
        chegou + intervaloMinimo ≤ saiu)
    (left : ∀ socket saiu, (Mensagem.saida { m with fase := fase }) = some (socket, saiu) →
      ∀ i a chegou, i < k → f.mensagens[i]? = some a → a.chegada = some chegou →
        chegou + intervaloMinimo ≤ saiu) : (f.mover k m fase).ComPausa := by
  intro i j a b socket chegou saiu less here there arrived gone
  rcases getElem?_moved here with ⟨rfl, rfl⟩ | ⟨_, was⟩
  · rcases getElem?_moved there with ⟨rfl, _⟩ | ⟨_, was'⟩
    · exact absurd less (Nat.lt_irrefl _)
    · exact sent chegou arrived j b socket saiu less was' gone
  · rcases getElem?_moved there with ⟨rfl, rfl⟩ | ⟨_, was'⟩
    · exact left socket saiu gone i a chegou less was arrived
    · exact pause i j a b socket chegou saiu less was was' arrived gone

/-- The clock is read at the message that moved and at the others as they were. -/
theorem NoRelogio.mover (clock : f.NoRelogio) {fase : FaseDaMensagem}
    (unsent : Mensagem.chegada { m with fase := fase } = none)
    (waits : ∀ socket ate, fase = .esperando socket ate →
      f.ultimoEnvioEm + intervaloMinimo ≤ ate ∧ ate < f.ultimoEnvioEm + intervaloMaximo) :
    (f.mover k m fase).NoRelogio := by
  refine ⟨clock.ultimo, clock.desde, fun n mem chegou arrived => ?_, fun n mem socket ate at_ => ?_⟩
  · rcases List.mem_or_eq_of_mem_set mem with old | rfl
    · exact clock.chegadas n old chegou arrived
    · rw [unsent] at arrived
      cases arrived
  · rcases List.mem_or_eq_of_mem_set mem with old | rfl
    · exact clock.esperas n old socket ate at_
    · exact waits socket ate at_

/-- A message leaves now: what was sent before it is a pause ago. -/
theorem EmDia.sair (day : f.EmDia) {socket : Nat}
    (paused : ∀ n ∈ f.mensagens, ∀ chegou, n.chegada = some chegou →
      chegou + intervaloMinimo ≤ f.agora)
    (vez : InTurn Mensagem.etapa (f.mensagens.set k { m with fase := .enviando socket f.agora })) :
    (f.mover k m (.enviando socket f.agora)).EmDia := by
  refine ⟨vez, day.pausa.mover nofun fun _ saiu gone i a chegou _ here arrived => ?_,
    day.relogio.mover rfl nofun⟩
  obtain ⟨_, rfl⟩ := Prod.mk.inj (Option.some.inj gone)
  exact paused a (List.mem_of_getElem? here) chegou arrived

/-- A message that left has begun. -/
theorem begun_of_saida {b : Mensagem} {saida : Nat × Nat} (left : b.saida = some saida) :
    b.etapa ≠ .waiting := by
  intro waits
  rw [Mensagem.saida] at left
  rw [Mensagem.etapa] at waits
  cases at_ : b.fase with
  | naFila =>
      rw [at_] at left
      cases left
  | _ =>
      rw [at_] at waits
      cases waits

/-! ### Each step -/

theorem EmDia.passar (day : f.EmDia) (ms : Nat) : (f.agir (.passar ms)).EmDia :=
  ⟨day.vez, day.pausa, Nat.le_add_right_of_le day.relogio.ultimo,
    Nat.add_pos_left day.relogio.desde ms, day.relogio.chegadas, day.relogio.esperas⟩

theorem EmDia.sendToGroup (day : f.EmDia) (groupId text : String) (imageUrl : Option String) :
    (f.sendToGroup groupId text imageUrl).EmDia := by
  refine ⟨day.vez.enqueue rfl, fun i j a b socket chegou saiu less here there arrived gone => ?_,
    day.relogio.ultimo, day.relogio.desde, fun n mem chegou arrived => ?_,
    fun n mem socket ate at_ => ?_⟩
  · rcases getElem?_begun there with old | ⟨_, rfl⟩
    · have inside : i < f.mensagens.length :=
        Nat.lt_trans less (List.getElem?_eq_some_iff.mp old).1
      rw [FilaDeEnvio.sendToGroup, List.getElem?_append_left inside] at here
      exact day.pausa i j a b socket chegou saiu less here old arrived gone
    · cases gone
  · rcases List.mem_append.mp mem with old | new
    · exact day.relogio.chegadas n old chegou arrived
    · obtain rfl := List.mem_singleton.mp new
      cases arrived
  · rcases List.mem_append.mp mem with old | new
    · exact day.relogio.esperas n old socket ate at_
    · obtain rfl := List.mem_singleton.mp new
      cases at_

/-- The drawn interval is past the shortest and before the longest. -/
theorem intervaloSorteado_lt (sorteio : Fin (intervaloMaximo - intervaloMinimo)) :
    intervaloMinimo ≤ intervaloSorteado sorteio ∧ intervaloSorteado sorteio < intervaloMaximo := by
  have drawn := sorteio.isLt
  unfold intervaloSorteado intervaloMaximo intervaloMinimo at *
  omega

theorem EmDia.tarefa (day : f.EmDia) (found : f.mensagens[k]? = some m) (waits : m.fase = .naFila)
    (free : ∀ i a, i < k → f.mensagens[i]? = some a → a.etapa = .settled)
    (sorteio : Fin (intervaloMaximo - intervaloMinimo)) : (f.tarefa k m sorteio).EmDia := by
  have stage : m.etapa = .waiting := by rw [Mensagem.etapa, waits]
  have turn : ∀ fase, InTurn Mensagem.etapa (f.mensagens.set k { m with fase := fase }) :=
    fun fase => InTurn.start day.vez found stage free _
  have interval := intervaloSorteado_lt sorteio
  unfold FilaDeEnvio.tarefa
  split
  · exact ⟨turn _, day.pausa.mover nofun nofun, day.relogio.mover rfl nofun⟩
  · next socket _ =>
      dsimp only
      split
      · next left =>
          refine ⟨turn _, day.pausa.mover nofun nofun, day.relogio.mover rfl fun _ ate at_ => ?_⟩
          obtain ⟨_, rfl⟩ := FaseDaMensagem.esperando.inj at_
          have last := day.relogio.ultimo
          -- now and what is left are the last message and the interval
          unfold restante at left ⊢
          split at left
          · exact absurd left (Nat.lt_irrefl 0)
          · rw [if_neg ‹_›]
            omega
      · next none_left =>
          refine day.sair (fun n mem chegou arrived => ?_) (turn _)
          obtain ⟨later, until_last⟩ := day.relogio.chegadas n mem chegou arrived
          have last := day.relogio.ultimo
          unfold restante at none_left
          split at none_left
          · omega
          · omega

theorem EmDia.acordar (day : f.EmDia) {socket : Nat} {ate : Nat}
    (found : f.mensagens[k]? = some m) (waits : m.fase = .esperando socket ate)
    (rang : ate ≤ f.agora) : (f.mover k m (.enviando socket f.agora)).EmDia := by
  have stage : m.etapa = .running := by rw [Mensagem.etapa, waits]
  refine day.sair (fun n mem chegou arrived => ?_)
    (InTurn.move day.vez found (by rw [stage]; nofun) fun settled => ?_)
  · have sent := (day.relogio.chegadas n mem chegou arrived).2
    have past := (day.relogio.esperas m (List.mem_of_getElem? found) socket ate waits).1
    omega
  · rw [stage] at settled
    cases settled

theorem EmDia.responder (day : f.EmDia) {socket : Nat} {saiu : Nat}
    (found : f.mensagens[k]? = some m) (sends : m.fase = .enviando socket saiu) (enviou : Bool) :
    (f.agir (.responder k enviou)).EmDia := by
  have stage : m.etapa = .running := by rw [Mensagem.etapa, sends]
  have begun : m.etapa ≠ .waiting := by rw [stage]; nofun
  have gone : m.saida = some (socket, saiu) := by rw [Mensagem.saida, sends]
  -- those before it are as far from when it left as they were
  have paused : ∀ i a chegou, i < k → f.mensagens[i]? = some a → a.chegada = some chegou →
      chegou + intervaloMinimo ≤ saiu := fun i a chegou less here arrived =>
    day.pausa i k a m socket chegou saiu less here found arrived gone
  simp only [agir, found, sends]
  split
  · have turn : InTurn Mensagem.etapa
        (f.mensagens.set k { m with fase := .enviada socket saiu f.agora }) :=
      InTurn.move day.vez found begun fun _ => rfl
    refine ⟨turn, ?_, le_rfl, day.relogio.desde, fun n mem chegou arrived => ?_,
      fun n mem socket' ate at_ => ?_⟩
    · refine day.pausa.mover (fun _ _ j b s t less there left => ?_)
        fun s t left i a chegou less here arrived => ?_
      · -- none after it has begun
        have ended := day.vez k j m b less found there (begun_of_saida left)
        rw [stage] at ended
        cases ended
      · obtain ⟨_, rfl⟩ := Prod.mk.inj (Option.some.inj left)
        exact paused i a chegou less here arrived
    · rcases List.mem_or_eq_of_mem_set mem with old | rfl
      · obtain ⟨later, until_last⟩ := day.relogio.chegadas n old chegou arrived
        exact ⟨later, until_last.trans day.relogio.ultimo⟩
      · obtain rfl := Option.some.inj arrived
        exact ⟨day.relogio.desde, le_rfl⟩
    · obtain ⟨j, there⟩ := List.mem_iff_getElem?.mp mem
      rcases getElem?_moved there with ⟨rfl, rfl⟩ | ⟨other, was⟩
      · cases at_
      · -- another that waits would be running too
        have runs : n.etapa = .running := by rw [Mensagem.etapa, at_]
        exact absurd (InTurn.unique day.vez was found runs stage) other
  · have turn : InTurn Mensagem.etapa (f.mensagens.set k { m with fase := .falhou socket saiu }) :=
      InTurn.move day.vez found begun fun _ => rfl
    refine ⟨turn, day.pausa.mover nofun fun s t left i a chegou less here arrived => ?_,
      day.relogio.mover rfl nofun⟩
    obtain ⟨_, rfl⟩ := Prod.mk.inj (Option.some.inj left)
    exact paused i a chegou less here arrived

theorem EmDia.agir (day : f.EmDia) (a : Acao) : (f.agir a).EmDia := by
  cases a with
  | passar ms => exact day.passar ms
  | sessao a => exact ⟨day.vez, day.pausa, day.relogio.1, day.relogio.2,
      day.relogio.3, day.relogio.4⟩
  | sendToGroup groupId text imageUrl => exact day.sendToGroup groupId text imageUrl
  | comecar k sorteio =>
      simp only [FilaDeEnvio.agir]
      split
      · next m found =>
          split
          · next turn => exact day.tarefa found turn.1 (vez_iff.mp turn.2) sorteio
          · exact day
      · exact day
  | acordar k =>
      simp only [FilaDeEnvio.agir]
      split
      · next m found =>
          split
          · next waits =>
              split
              · next rang => exact day.acordar found waits rang
              · exact day
          · exact day
      · exact day
  | responder k enviou =>
      cases found : f.mensagens[k]? with
      | none => simpa only [FilaDeEnvio.agir, found] using day
      | some m =>
          cases sends : m.fase with
          | enviando socket saiu => exact day.responder found sends enviou
          | _ => simpa only [FilaDeEnvio.agir, found, sends] using day

/-! ### Its turn comes to an end -/

/-- Where a message is after its task began. -/
theorem comecar_fase (found : f.mensagens[k]? = some m)
    (free : ∀ i a, i < k → f.mensagens[i]? = some a → a.etapa = .settled)
    (sorteio : Fin (intervaloMaximo - intervaloMinimo)) :
    ∃ n, (f.agir (.comecar k sorteio)).mensagens[k]? = some n ∧ n.etapa ≠ .waiting := by
  simp only [FilaDeEnvio.agir, found]
  split
  · unfold FilaDeEnvio.tarefa
    split
    · exact ⟨_, getElem?_moved_self found, nofun⟩
    · dsimp only
      split
      · exact ⟨_, getElem?_moved_self found, nofun⟩
      · exact ⟨_, getElem?_moved_self found, nofun⟩
  · next stays =>
      refine ⟨m, found, fun waits => stays ⟨?_, vez_iff.mpr free⟩⟩
      rw [Mensagem.etapa] at waits
      split at waits
      · assumption
      all_goals cases waits

/-- The longest pause after it began to wait, it leaves. -/
theorem acordar_fase (day : f.EmDia) (found : f.mensagens[k]? = some m)
    (begun : m.etapa ≠ .waiting) :
    ∃ n, ((f.agir (.passar intervaloMaximo)).agir (.acordar k)).mensagens[k]? = some n ∧
      (n.etapa = .settled ∨ ∃ socket saiu, n.fase = .enviando socket saiu) := by
  have there : (f.agir (.passar intervaloMaximo)).mensagens[k]? = some m := found
  generalize later : f.agir (.passar intervaloMaximo) = g at there ⊢
  have clock : g.agora = f.agora + intervaloMaximo := by rw [← later]; rfl
  simp only [FilaDeEnvio.agir, there]
  cases at_ : m.fase with
  | esperando socket ate =>
      have last := day.relogio.ultimo
      have soon := (day.relogio.esperas m (List.mem_of_getElem? found) socket ate at_).2
      have rang : ate ≤ g.agora := by omega
      simp only [rang, if_true]
      exact ⟨_, getElem?_moved_self there, .inr ⟨socket, g.agora, rfl⟩⟩
  | naFila => exact absurd (by rw [Mensagem.etapa, at_]) begun
  | enviando socket saiu => exact ⟨m, there, .inr ⟨socket, saiu, at_⟩⟩
  | enviada socket saiu chegou => exact ⟨m, there, .inl (by rw [Mensagem.etapa, at_])⟩
  | recusada => exact ⟨m, there, .inl (by rw [Mensagem.etapa, at_])⟩
  | falhou socket saiu => exact ⟨m, there, .inl (by rw [Mensagem.etapa, at_])⟩

theorem EmDia.termina (day : f.EmDia) : f.Termina := by
  intro k m found free sorteio enviou
  obtain ⟨n, there, begun⟩ := comecar_fase found free sorteio
  obtain ⟨o, at_k, phase⟩ := acordar_fase (day.agir (.comecar k sorteio)) there begun
  simp only [runFrom_cons, runFrom_nil]
  generalize ((f.agir (.comecar k sorteio)).agir (.passar intervaloMaximo)).agir (.acordar k) = g
    at at_k ⊢
  rcases phase with settled | ⟨socket, saiu, sends⟩
  · refine ⟨o, ?_, settled⟩
    rw [Mensagem.etapa] at settled
    simp only [FilaDeEnvio.agir, at_k]
    split at settled <;> simp_all
  · simp only [FilaDeEnvio.agir, at_k, sends]
    split
    · exact ⟨_, getElem?_moved_self at_k, rfl⟩
    · exact ⟨_, getElem?_moved_self at_k, rfl⟩

theorem emDia_inicial {agora : Nat} (started : 0 < agora) : (inicial agora).EmDia :=
  ⟨inTurn_nil, fun _ _ _ _ _ _ _ _ here => (nomatch here), Nat.zero_le _, started,
    fun _ mem => absurd mem List.not_mem_nil, fun _ mem => absurd mem List.not_mem_nil⟩

end FilaDeEnvio

/-! ### Whole runs -/

open FilaDeEnvio

/-- In every interleaving of requests, timers, answers and whatever happens to the connection, the
messages of a church leave one at a time and in the order they were asked for, eight seconds or more
after any that was sent; and each of them is over twenty-five seconds and one answer after its turn
came, also when those before it failed. -/
theorem filaDeEnvio_run {agora : Nat} (started : 0 < agora) (acoes : List FilaDeEnvio.Acao) :
    Always agir (fun f => f.EmVez ∧ f.ComPausa ∧ f.Termina) (inicial agora) acoes := by
  have kept : Always agir EmDia (inicial agora) acoes :=
    always_of_step (fun _ a day => day.agir a) (emDia_inicial started) acoes
  exact kept.mono fun _ day => ⟨day.vez, day.pausa, day.termina⟩

/-- The socket opens, one message is sent and another waits behind one that was refused. -/
theorem filaDeEnvio_run_tres :
    Always agir (fun f => f.EmVez ∧ f.ComPausa ∧ f.Termina) (inicial 1000)
      [.sendToGroup "a" "oi" none, .comecar 0 ⟨5, by decide⟩, .sessao .connect,
        .sessao (.seguir 0 (.ok "")), .sessao (.seguir 0 (.ok "")), .sessao (.seguir 0 (.ok "")),
        .sessao (.evento 0 ⟨none, some .opened, .outra, none, 1000⟩), .sendToGroup "b" "oi" none,
        .comecar 1 ⟨5, by decide⟩, .responder 1 true, .sendToGroup "c" "oi" none,
        .comecar 2 ⟨5, by decide⟩, .passar 9000, .acordar 2, .responder 2 false] :=
  filaDeEnvio_run (by decide) _

end IccvBackend
