/-
Module: IccvBackend.Proofs.SessionRegistry
Purpose: When the map of the WhatsApp sessions still has every session that does anything.
Trusted boundary: none
Main exports: SessaoDaIgreja.Inerte, WhatsappService.Achaveis, WhatsappService.EsqueceInerte,
  achaveis_run_iff
-/
import IccvBackend.Whatsapp.Registro
import IccvBackend.Proofs.WhatsappSession

namespace IccvBackend

open Lib

/-! ### A session that does nothing by itself -/

/-- The call may still make a socket, or schedule one.  Every close that is being handled counts,
also one that will reopen nothing. -/
def ChamadaDaSessao.Reabre : ChamadaDaSessao → Prop
  | .conectando _ _ | .reagendando _ | .fechando _ _ => True
  | _ => False

namespace SessaoDaIgreja

/-- Nothing is open, and nothing on the way opens anything. -/
structure Inerte (s : SessaoDaIgreja) : Prop where
  socket : s.socket = none
  mortos : ∀ k, ¬ s.Vivo k
  desarmada : s.reconexao ≠ .armada
  chamadas : ∀ c ∈ s.chamadas, ¬ c.Reabre

variable {s s' : SessaoDaIgreja} {k : Nat} {c : ChamadaDaSessao}

/-- The law reads the sockets, the timer and the calls. -/
theorem Inerte.congr (inert : s.Inerte) (sockets : s'.sockets = s.sockets)
    (socket : s'.socket = s.socket) (reconexao : s'.reconexao = s.reconexao)
    (chamadas : s'.chamadas = s.chamadas) : s'.Inerte where
  socket := socket.trans inert.socket
  mortos k live := inert.mortos k (by rwa [Vivo, ← sockets])
  desarmada armed := inert.desarmada (reconexao.symm.trans armed)
  chamadas c mem := inert.chamadas c (chamadas ▸ mem)

theorem Inerte.iniciar (inert : s.Inerte) (calm : ¬ c.Reabre) : (s.iniciar c).Inerte := by
  refine ⟨inert.socket, inert.mortos, inert.desarmada, fun d mem => ?_⟩
  rcases List.mem_append.mp mem with old | new
  · exact inert.chamadas d old
  · exact List.mem_singleton.mp new ▸ calm

theorem Inerte.mover (inert : s.Inerte) (k : Nat) (calm : ¬ c.Reabre) : (s.mover k c).Inerte := by
  refine ⟨inert.socket, inert.mortos, inert.desarmada, fun d mem => ?_⟩
  rcases List.mem_or_eq_of_mem_set mem with old | rfl
  · exact inert.chamadas d old
  · exact calm

theorem Inerte.cancelaReconexao (inert : s.Inerte) : s.cancelaReconexao.Inerte :=
  ⟨inert.socket, inert.mortos, nofun, inert.chamadas⟩

theorem Inerte.endSocket (inert : s.Inerte) : s.endSocket.Inerte := by
  unfold SessaoDaIgreja.endSocket
  rw [inert.socket]
  exact inert

theorem Inerte.soltarSocket (inert : s.Inerte) : s.soltarSocket.Inerte :=
  inert.endSocket.congr rfl inert.endSocket.socket.symm rfl rfl

theorem not_reabre_turnoDoPareamento (numero : String) (i : Nat) :
    ¬ (s.turnoDoPareamento numero i).Reabre := by
  unfold turnoDoPareamento
  split
  · exact id
  · split <;> exact id

/-- An inert session stays so, whatever it does with a call that was in flight. -/
theorem Inerte.seguir (inert : s.Inerte) (here : s.chamadas[k]? = some c)
    (retorno : Except String String) : (s.seguir k c retorno).Inerte := by
  have calm : ¬ c.Reabre := inert.chamadas c (List.mem_of_getElem? here)
  -- what is written is not read by the law, and the call goes on to nothing that opens
  have moved : ∀ {s' : SessaoDaIgreja} {depois : ChamadaDaSessao}, ¬ depois.Reabre →
      s'.sockets = s.sockets → s'.socket = s.socket → s'.reconexao = s.reconexao →
      s'.chamadas = s.chamadas → (s'.mover k depois).Inerte :=
    fun calm sockets socket reconexao chamadas =>
      (inert.congr sockets socket reconexao chamadas).mover k calm
  cases c with
  | conectando quem espera => exact absurd trivial calm
  | reagendando erro => exact absurd trivial calm
  | fechando codigo motivo => exact absurd trivial calm
  | esperandoQr numero i => exact moved (not_reabre_turnoDoPareamento numero i) rfl rfl rfl rfl
  | saindo => exact inert.soltarSocket.mover k id
  | fim => exact moved id rfl rfl rfl rfl
  | pedindoCodigo | cancelando | limpando | limpandoFechada =>
      cases retorno <;> exact moved id rfl rfl rfl rfl

theorem Inerte.cancelPairing (inert : s.Inerte) (registered : Bool) :
    (s.cancelPairing registered).Inerte := by
  have told : { s with encerrando := true }.Inerte := inert.congr rfl rfl rfl rfl
  have stopped := told.cancelaReconexao.soltarSocket
  unfold SessaoDaIgreja.cancelPairing
  dsimp only
  split
  · exact Inerte.iniciar (stopped.congr rfl rfl rfl rfl) (c := .fim) id
  · exact stopped.iniciar id

theorem Inerte.disconnect (inert : s.Inerte) : s.disconnect.Inerte := by
  have told : { s with encerrando := true }.Inerte := inert.congr rfl rfl rfl rfl
  have stopped := told.cancelaReconexao
  unfold SessaoDaIgreja.disconnect
  dsimp only
  split
  · exact stopped.iniciar id
  · exact stopped.soltarSocket.iniciar id

theorem Inerte.encerrar (inert : s.Inerte) : s.encerrar.Inerte :=
  have told : { s with encerrando := true }.Inerte := inert.congr rfl rfl rfl rfl
  told.cancelaReconexao.endSocket

/-- A socket that an inert session does not hold changes nothing but itself. -/
theorem Inerte.aoMudarConexao (inert : s.Inerte) (origem : Nat) (u : ConnectionUpdate) :
    (s.aoMudarConexao origem u).Inerte := by
  have told : (if u.connection = some .close then s.fecharSocket origem else s).Inerte := by
    split
    · exact ⟨inert.socket, fun k live => inert.mortos k (vivo_of_fecharSocket live),
        inert.desarmada, inert.chamadas⟩
    · exact inert
  unfold SessaoDaIgreja.aoMudarConexao
  dsimp only
  rw [if_neg (by rw [told.socket]; nofun)]
  exact told

theorem Inerte.dispararReconexao (inert : s.Inerte) : (s.agir .dispararReconexao).Inerte := by
  unfold agir
  rw [if_neg inert.desarmada]
  exact inert

theorem Inerte.agir_seguir (inert : s.Inerte) (k : Nat) (retorno : Except String String) :
    (s.agir (.seguir k retorno)).Inerte := by
  simp only [agir]
  split
  · next c here => exact inert.seguir here retorno
  · exact inert

/-- The end of a call that turned the session off. -/
theorem seguir_desliga (off : c.desliga = true) (valor : String) :
    ∃ s₁ : SessaoDaIgreja, s.seguir k c (.ok valor) = s₁.mover k .fim ∧ s₁.sockets = s.sockets ∧
      s₁.socket = s.socket ∧ s₁.reconexao = s.reconexao ∧ s₁.chamadas = s.chamadas ∧
      s₁.status = .disconnected := by
  cases c with
  | cancelando => exact ⟨s.pareamentoCancelado, rfl, rfl, rfl, rfl, rfl, rfl⟩
  | limpando => exact ⟨s.desconectada, rfl, rfl, rfl, rfl, rfl, rfl⟩
  | _ => exact absurd off Bool.false_ne_true

/-- That end opens nothing and closes nothing. -/
theorem inerte_seguir_desliga_iff (here : s.chamadas[k]? = some c) (off : c.desliga = true)
    (valor : String) : (s.seguir k c (.ok valor)).Inerte ↔ s.Inerte := by
  refine ⟨fun inert => ?_, fun inert => inert.seguir here _⟩
  obtain ⟨s₁, eq, sockets, socket, reconexao, chamadas, _⟩ :=
      seguir_desliga off valor (s := s) (k := k)
  rw [eq] at inert
  refine ⟨socket.symm.trans inert.socket, fun j live => inert.mortos j ?_,
    fun armed => inert.desarmada (reconexao.trans armed), fun d mem => ?_⟩
  · change s₁.Vivo j
    rwa [Vivo, sockets]
  · obtain ⟨j, there⟩ := List.mem_iff_getElem?.mp mem
    by_cases same : k = j
    · subst same
      obtain rfl := Option.some.inj (here.symm.trans there)
      cases c with
      | cancelando | limpando => exact id
      | _ => exact absurd off Bool.false_ne_true
    · refine inert.chamadas d (List.mem_of_getElem? (i := j) ?_)
      rw [SessaoDaIgreja.mover, chamadas, List.getElem?_set_ne same]
      exact there

theorem ociosa_seguir_desliga_iff (off : c.desliga = true) (valor : String) :
    (s.seguir k c (.ok valor)).ociosa = true ↔ s.socket = none ∧ s.reconexao = .nenhuma := by
  obtain ⟨s₁, eq, _, socket, reconexao, _, status⟩ := seguir_desliga off valor (s := s) (k := k)
  rw [eq, ociosa, SessaoDaIgreja.mover]
  simp [socket, reconexao, status]

/-- A pairing given up with the number already paired: what is left is what the session did not
hold. -/
theorem inerte_cancelPairing_iff {i : Nat} (held : s.socket = some i) :
    (s.cancelPairing true).Inerte ↔
      (∀ j, s.Vivo j → j = i) ∧ ∀ c ∈ s.chamadas, ¬ c.Reabre := by
  have sockets : (s.cancelPairing true).sockets = s.sockets.set i false := by
    simp [SessaoDaIgreja.cancelPairing, held, SessaoDaIgreja.soltarSocket,
      SessaoDaIgreja.endSocket, SessaoDaIgreja.cancelaReconexao, fecharSocket,
      pareamentoCancelado, SessaoDaIgreja.iniciar]
  have chamadas : (s.cancelPairing true).chamadas = s.chamadas ++ [.fim] := by
    simp [SessaoDaIgreja.cancelPairing, held, SessaoDaIgreja.soltarSocket,
      SessaoDaIgreja.endSocket, SessaoDaIgreja.cancelaReconexao, fecharSocket,
      pareamentoCancelado, SessaoDaIgreja.iniciar]
  constructor
  · intro inert
    refine ⟨fun j live => ?_, fun c mem => inert.chamadas c ?_⟩
    · by_contra other
      refine inert.mortos j ?_
      rw [Vivo, sockets, List.getElem?_set_ne (Ne.symm other)]
      exact live
    · rw [chamadas]
      exact List.mem_append_left _ mem
  · rintro ⟨only, calm⟩
    refine ⟨?_, fun j live => ?_, ?_, fun c mem => ?_⟩
    · simp [SessaoDaIgreja.cancelPairing, held, SessaoDaIgreja.soltarSocket, pareamentoCancelado,
        SessaoDaIgreja.iniciar]
    · rw [Vivo, sockets] at live
      have old : s.Vivo j := vivo_of_fecharSocket (s := s) (i := i) live
      obtain rfl := only j old
      exact not_vivo_fechado (s := s) live
    · simp [SessaoDaIgreja.cancelPairing, held, SessaoDaIgreja.soltarSocket, pareamentoCancelado,
        SessaoDaIgreja.iniciar, SessaoDaIgreja.cancelaReconexao]
    · rw [chamadas] at mem
      rcases List.mem_append.mp mem with old | new
      · exact calm c old
      · exact List.mem_singleton.mp new ▸ id

theorem ociosa_cancelPairing {i : Nat} (held : s.socket = some i) :
    (s.cancelPairing true).ociosa = true := by
  simp [ociosa, SessaoDaIgreja.cancelPairing, held, SessaoDaIgreja.soltarSocket,
    pareamentoCancelado, SessaoDaIgreja.iniciar, SessaoDaIgreja.cancelaReconexao]

end SessaoDaIgreja

namespace WhatsappService

variable {w : WhatsappService} {i j : Nat} {churchId : Id} {s : SessaoDaIgreja}

/-! ### The law -/

/-- The map leads to sessions, each under its own church. -/
def Registradas (w : WhatsappService) : Prop :=
  ∀ churchId i, w.sessoes churchId = some i → ∃ s, w.criadas[i]? = some (churchId, s)

/-- A session that the map does not have for its church neither holds a connection nor opens one. -/
def Achaveis (w : WhatsappService) : Prop :=
  ∀ i churchId s, w.criadas[i]? = some (churchId, s) →
    s.Inerte ∨ w.sessoes churchId = some i

/-- So a church has one session at most that does anything. -/
theorem Achaveis.unica (found : w.Achaveis) {t : SessaoDaIgreja}
    (one : w.criadas[i]? = some (churchId, s)) (two : w.criadas[j]? = some (churchId, t))
    (active : ¬ s.Inerte) (active' : ¬ t.Inerte) : i = j := by
  have first := (found i churchId s one).resolve_left active
  have second := (found j churchId t two).resolve_left active'
  exact Option.some.inj (first.symm.trans second)

/-- When a call that turned a session off ends and leaves it idle, the session that the map has for
the church by then is inert; and a pairing given up with the number paired finds no socket other
than the one it ends, and nothing on the way. -/
def EsqueceInerte (w : WhatsappService) : Acao → Prop
  | .seguir i k retorno => ∀ churchId s c, w.criadas[i]? = some (churchId, s) →
      s.chamadas[k]? = some c → c.desliga = true → retorno.isOk = true → s.socket = none →
      s.reconexao = .nenhuma → ∀ j t, w.sessoes churchId = some j →
        w.criadas[j]? = some (churchId, t) → t.Inerte
  | .cancelPairing churchId registered => ∀ i s k, w.sessoes churchId = some i →
      w.criadas[i]? = some (churchId, s) → s.socket = some k → registered = true →
        (∀ l, s.Vivo l → l = k) ∧ ∀ c ∈ s.chamadas, ¬ c.Reabre
  | _ => True

/-! ### One step -/

theorem getElem?_naSessao {a : SessaoDaIgreja.Acao}
    (here : (w.naSessao i a).criadas[j]? = some (churchId, s)) :
    (j = i ∧ ∃ antes, w.criadas[i]? = some (churchId, antes) ∧ s = antes.agir a) ∨
      (j ≠ i ∧ w.criadas[j]? = some (churchId, s)) := by
  unfold naSessao at here
  split at here
  · next of antes found =>
      rcases getElem?_moved here with ⟨rfl, same⟩ | ⟨other, there⟩
      · obtain ⟨rfl, rfl⟩ := Prod.mk.inj same
        exact .inl ⟨rfl, antes, found, rfl⟩
      · exact .inr ⟨other, there⟩
  · next absent =>
      refine .inr ⟨?_, here⟩
      rintro rfl
      rw [absent] at here
      cases here

@[simp] theorem naSessao_sessoes (a : SessaoDaIgreja.Acao) :
    (w.naSessao i a).sessoes = w.sessoes := by
  unfold naSessao
  split <;> rfl

theorem naSessao_self {a : SessaoDaIgreja.Acao} (found : w.criadas[i]? = some (churchId, s)) :
    (w.naSessao i a).criadas[i]? = some (churchId, s.agir a) := by
  simp only [naSessao, found]
  exact getElem?_moved_self found

theorem naSessao_other (a : SessaoDaIgreja.Acao) (other : j ≠ i) :
    (w.naSessao i a).criadas[j]? = w.criadas[j]? := by
  unfold naSessao
  split
  · exact List.getElem?_set_ne (Ne.symm other)
  · rfl

theorem Registradas.naSessao (known : w.Registradas) (i : Nat) (a : SessaoDaIgreja.Acao) :
    (w.naSessao i a).Registradas := by
  intro churchId j held
  rw [naSessao_sessoes] at held
  obtain ⟨s, found⟩ := known churchId j held
  by_cases same : j = i
  · subst same
    exact ⟨_, naSessao_self found⟩
  · exact ⟨s, (naSessao_other a same).trans found⟩

/-- A step that leaves an inert session inert, or a step of the session that the map has. -/
theorem Achaveis.naSessao (found : w.Achaveis) {a : SessaoDaIgreja.Acao}
    (calm : ∀ churchId s, w.criadas[i]? = some (churchId, s) → s.Inerte →
      (s.agir a).Inerte ∨ w.sessoes churchId = some i) : (w.naSessao i a).Achaveis := by
  intro j churchId s here
  rw [naSessao_sessoes]
  rcases getElem?_naSessao here with ⟨rfl, antes, was, rfl⟩ | ⟨_, was⟩
  · exact (found j churchId antes was).elim (calm churchId antes was) .inr
  · exact found j churchId s was

theorem Registradas.sessao (known : w.Registradas) (churchId : Id) :
    (w.sessao churchId).1.Registradas := by
  unfold WhatsappService.sessao
  split
  · exact known
  · intro outra i held
    dsimp only at held
    by_cases same : outra = churchId
    · subst same
      rw [Function.update_self] at held
      obtain rfl := Option.some.inj held
      exact ⟨_, List.getElem?_concat_length⟩
    · rw [Function.update_of_ne same] at held
      obtain ⟨s, there⟩ := known outra i held
      exact ⟨s, (List.getElem?_append_left (List.getElem?_eq_some_iff.mp there).1).trans there⟩

theorem Achaveis.sessao (found : w.Achaveis) (churchId : Id) :
    (w.sessao churchId).1.Achaveis := by
  unfold WhatsappService.sessao
  split
  · exact found
  · next absent =>
      intro i outra s here
      rcases getElem?_begun here with was | ⟨rfl, new⟩
      · refine (found i outra s was).imp_right fun held => ?_
        have other : outra ≠ churchId := by
          rintro rfl
          rw [absent] at held
          cases held
        exact (Function.update_of_ne other _ _).trans held
      · obtain ⟨rfl, rfl⟩ := Prod.mk.inj new
        exact .inr (Function.update_self _ _ _)

theorem sessao_sessoes (churchId : Id) :
    (w.sessao churchId).1.sessoes churchId = some (w.sessao churchId).2 := by
  unfold WhatsappService.sessao
  split
  · next held => exact held
  · exact Function.update_self _ _ _

theorem Achaveis.naSessaoDe (known : w.Registradas) (found : w.Achaveis) (churchId : Id)
    (a : SessaoDaIgreja.Acao) : (w.naSessaoDe churchId a).Achaveis := by
  refine (found.sessao churchId).naSessao fun outra s there _ => .inr ?_
  have held := sessao_sessoes (w := w) churchId
  obtain ⟨t, here⟩ := known.sessao churchId churchId _ held
  obtain ⟨rfl, _⟩ := Prod.mk.inj (Option.some.inj (there.symm.trans here))
  exact held

theorem Registradas.descartaSeOciosa (known : w.Registradas) (i : Nat) :
    (w.descartaSeOciosa i).Registradas := by
  unfold WhatsappService.descartaSeOciosa
  split
  · split
    · intro outra j held
      dsimp only at held
      rw [Function.update_apply] at held
      split at held
      · cases held
      · exact known outra j held
    · exact known
  · exact known

/-- What the map may forget. -/
theorem achaveis_descartaSeOciosa_iff (found : w.Achaveis)
    (here : w.criadas[i]? = some (churchId, s)) :
    (w.descartaSeOciosa i).Achaveis ↔ (s.ociosa = true → ∀ j t, w.sessoes churchId = some j →
      w.criadas[j]? = some (churchId, t) → t.Inerte) := by
  simp only [WhatsappService.descartaSeOciosa, here]
  split
  · next idle =>
      constructor
      · intro after _ j t held there
        refine (after j churchId t there).resolve_right fun kept => ?_
        have forgotten : Function.update w.sessoes churchId none churchId = none :=
          Function.update_self _ _ _
        exact absurd (forgotten.symm.trans kept) nofun
      · intro inert j outra t there
        refine (found j outra t there).elim .inl fun held => ?_
        by_cases same : outra = churchId
        · subst same
          exact .inl (inert idle j t held there)
        · exact .inr ((Function.update_of_ne same _ _).trans held)
  · next busy => exact iff_of_true found fun idle => absurd idle busy

/-- The end of a call that turned a session off, read before it. -/
theorem achaveis_seguir_iff (found : w.Achaveis) (i k : Nat)
    (retorno : Except String String) :
    (w.seguir i k retorno).Achaveis ↔ w.EsqueceInerte (.seguir i k retorno) := by
  have moved : (w.naSessao i (.seguir k retorno)).Achaveis :=
    found.naSessao fun _ _ _ inert => .inl (inert.agir_seguir k retorno)
  unfold WhatsappService.seguir
  dsimp only
  split
  · next ended =>
      obtain ⟨⟨churchId, s⟩, here, ends⟩ := (Option.any_eq_true _ _).mp ended
      rw [Bool.and_eq_true] at ends
      obtain ⟨c, call, off⟩ := (Option.any_eq_true _ _).mp ends.1
      cases retorno with
      | error erro => exact absurd ends.2 Bool.false_ne_true
      | ok valor =>
          have gone : s.agir (.seguir k (.ok valor)) = s.seguir k c (.ok valor) := by
            simp only [SessaoDaIgreja.agir, call]
          rw [achaveis_descartaSeOciosa_iff moved (naSessao_self here), gone,
            SessaoDaIgreja.ociosa_seguir_desliga_iff off, naSessao_sessoes]
          -- the session of the map, after the step and before it
          have same : ∀ j : Nat, (∀ t : SessaoDaIgreja,
              (w.naSessao i (.seguir k (.ok valor))).criadas[j]? = some (churchId, t) → t.Inerte) ↔
              ∀ t : SessaoDaIgreja, w.criadas[j]? = some (churchId, t) → t.Inerte := by
            intro j
            by_cases own : j = i
            · subst own
              rw [naSessao_self here, here, gone]
              simp [SessaoDaIgreja.inerte_seguir_desliga_iff call off]
            · rw [naSessao_other _ own]
          constructor
          · rintro inert outra t d there call' _ _ socket timer j u held at_j
            obtain ⟨rfl, rfl⟩ := Prod.mk.inj (Option.some.inj (here.symm.trans there))
            exact (same j).mp (fun u at_j => inert ⟨socket, timer⟩ j u held at_j) u at_j
          · rintro guard ⟨socket, timer⟩ j t held at_j
            exact (same j).mpr (fun t at_j => guard churchId s c here call off rfl socket timer j t
              held at_j) t at_j
  · next on =>
      refine iff_of_true moved fun churchId s c here call off ok => ?_
      simp [here, call, off, ok] at on

/-- A pairing given up, read before it. -/
theorem achaveis_cancelPairing_iff (known : w.Registradas) (found : w.Achaveis) (churchId : Id)
    (registered : Bool) : (w.cancelPairing churchId registered).Achaveis ↔
      w.EsqueceInerte (.cancelPairing churchId registered) := by
  unfold WhatsappService.cancelPairing
  split
  · next absent =>
      refine iff_of_true found fun i s k held => ?_
      rw [absent] at held
      cases held
  · next i held =>
      obtain ⟨s, here⟩ := known churchId i held
      have moved : (w.naSessao i (.cancelPairing registered)).Achaveis :=
        found.naSessao fun _ _ _ inert => .inl (inert.cancelPairing registered)
      dsimp only
      split
      · next paired =>
          rw [here] at paired
          simp only [Option.any_some, Bool.and_eq_true] at paired
          obtain ⟨k, socket⟩ := Option.isSome_iff_exists.mp paired.1
          obtain rfl := paired.2
          have gone : s.agir (.cancelPairing true) = s.cancelPairing true := rfl
          have there := naSessao_self (a := .cancelPairing true) here
          rw [achaveis_descartaSeOciosa_iff moved there, gone,
            naSessao_sessoes]
          rw [gone] at there
          constructor
          · intro inert i' s' k' held' here' socket' _
            obtain rfl := Option.some.inj (held.symm.trans held')
            obtain ⟨_, rfl⟩ := Prod.mk.inj (Option.some.inj (here.symm.trans here'))
            obtain rfl := Option.some.inj (socket.symm.trans socket')
            exact (SessaoDaIgreja.inerte_cancelPairing_iff socket).mp
              (inert (SessaoDaIgreja.ociosa_cancelPairing socket) i _ held there)
          · intro guard _ j t held' at_j
            obtain rfl := Option.some.inj (held.symm.trans held')
            obtain ⟨_, rfl⟩ := Prod.mk.inj (Option.some.inj (there.symm.trans at_j))
            exact (SessaoDaIgreja.inerte_cancelPairing_iff socket).mpr
              (guard i s k held here socket rfl)
      · next unpaired =>
          refine iff_of_true moved fun i' s' k held' here' socket paired => ?_
          obtain rfl := Option.some.inj (held.symm.trans held')
          simp [here', socket, paired] at unpaired

theorem Achaveis.disconnect (found : w.Achaveis) (churchId : Id) :
    (w.disconnect churchId).Achaveis := by
  unfold WhatsappService.disconnect
  split
  · exact found
  · exact found.naSessao fun _ _ _ inert => .inl inert.disconnect

theorem Achaveis.onModuleDestroy (found : w.Achaveis) : w.onModuleDestroy.Achaveis := by
  intro i churchId s here
  simp only [WhatsappService.onModuleDestroy, List.getElem?_mapIdx, Option.map_eq_some_iff] at here
  obtain ⟨⟨outra, antes⟩, was, ended⟩ := here
  split at ended
  · obtain ⟨rfl, rfl⟩ := Prod.mk.inj ended
    exact (found i outra antes was).imp_left fun inert => inert.encerrar
  · obtain ⟨rfl, rfl⟩ := Prod.mk.inj ended
    exact found i outra antes was

theorem registradas_inicial : inicial.Registradas := fun _ _ held => nomatch held

theorem achaveis_inicial : inicial.Achaveis := fun _ _ _ here => nomatch here

theorem registradas_agir (known : w.Registradas) (a : Acao) : (w.agir a).Registradas := by
  cases a with
  | retomar churchId tem =>
      simp only [agir]
      split
      · exact (known.sessao churchId).naSessao _ _
      · exact known.sessao churchId
  | onModuleDestroy =>
      intro churchId i held
      obtain ⟨s, here⟩ := known churchId i held
      simp only [agir, WhatsappService.onModuleDestroy, List.getElem?_mapIdx, here]
      exact ⟨s.encerrar, by simp [show w.sessoes churchId = some i from held]⟩
  | connect churchId => exact (known.sessao churchId).naSessao _ _
  | requestPairingCode churchId phoneNumber => exact (known.sessao churchId).naSessao _ _
  | cancelPairing churchId registered =>
      simp only [agir, WhatsappService.cancelPairing]
      split
      · exact known
      · split
        · exact (known.naSessao _ _).descartaSeOciosa _
        · exact known.naSessao _ _
  | disconnect churchId =>
      simp only [agir, WhatsappService.disconnect]
      split
      · exact known
      · exact known.naSessao _ _
  | evento i origem u => exact known.naSessao _ _
  | dispararReconexao i => exact known.naSessao _ _
  | seguir i k retorno =>
      simp only [agir, WhatsappService.seguir]
      split
      · exact (known.naSessao _ _).descartaSeOciosa _
      · exact known.naSessao _ _

/-- The condition is what one step needs. -/
theorem achaveis_agir_iff (known : w.Registradas) (found : w.Achaveis) (a : Acao) :
    (w.agir a).Achaveis ↔ w.EsqueceInerte a := by
  cases a with
  | retomar churchId tem =>
      refine iff_of_true ?_ trivial
      simp only [agir]
      split
      · exact found.naSessaoDe known churchId _
      · exact found.sessao churchId
  | onModuleDestroy => exact iff_of_true found.onModuleDestroy trivial
  | connect churchId => exact iff_of_true (found.naSessaoDe known churchId _) trivial
  | requestPairingCode churchId phoneNumber =>
      exact iff_of_true (found.naSessaoDe known churchId _) trivial
  | cancelPairing churchId registered =>
      exact achaveis_cancelPairing_iff known found churchId registered
  | disconnect churchId => exact iff_of_true (found.disconnect churchId) trivial
  | evento i origem u =>
      refine iff_of_true ?_ trivial
      exact found.naSessao fun _ _ _ inert => .inl (inert.aoMudarConexao origem u)
  | dispararReconexao i =>
      refine iff_of_true ?_ trivial
      exact found.naSessao fun _ _ _ inert => .inl inert.dispararReconexao
  | seguir i k retorno => exact achaveis_seguir_iff found i k retorno

end WhatsappService

/-! ### Whole runs -/

open WhatsappService

/-- In every interleaving of requests, events of sockets, timers and answers, a session that does
anything is the one the map has for its church, exactly in the runs where no session is forgotten
with something of its church still open or on the way. -/
theorem achaveis_run_iff (acoes : List WhatsappService.Acao) :
    Always agir Achaveis inicial acoes ↔ EachStep agir EsqueceInerte inicial acoes :=
  always_iff_eachStep_of_invariant (I := fun w : WhatsappService => w.Registradas ∧ w.Achaveis)
    (fun _ inv => inv.2)
    (fun _ a inv guard => ⟨registradas_agir inv.1 a, (achaveis_agir_iff inv.1 inv.2 a).mpr guard⟩)
    (fun _ a inv after => (achaveis_agir_iff inv.1 inv.2 a).mp after)
    ⟨registradas_inicial, achaveis_inicial⟩

/-- A church that is disconnected while it connects is forgotten, and the socket comes after. -/
example : ¬ (runFrom agir inicial [.connect 1, .disconnect 1, .seguir 0 1 (.ok ""),
    .seguir 0 0 (.ok ""), .seguir 0 0 (.ok ""), .seguir 0 0 (.ok "")]).Achaveis := by
  intro found
  rcases found 0 1 _ rfl with inert | held
  · exact absurd inert.socket (by decide)
  · exact absurd held (by decide)

end IccvBackend
