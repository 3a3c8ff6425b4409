/-
Module: IccvBackend.Proofs.WhatsappSession
Purpose: When a church has one live connection, and none after it was turned off.
Trusted boundary: none
Main exports: SessaoDaIgreja.UmaConexao, SessaoDaIgreja.ComoEsperado, umaConexao_run
-/
import IccvBackend.Lib.Transitions
import IccvBackend.Whatsapp.Service

namespace IccvBackend

open Lib

namespace SessaoDaIgreja

/-! ### The law -/

/-- A socket that was created, and neither ended nor reported closed. -/
def Vivo (s : SessaoDaIgreja) (i : Nat) : Prop := s.sockets[i]? = some true

/-- The calls of `cancelPairing` and `disconnect` that started after the last call of `connect`. -/
def registrar (h : List Nat) (s : SessaoDaIgreja) (a : Acao) (_ : SessaoDaIgreja) : List Nat :=
  match a with
  | .cancelPairing _ | .disconnect => s.chamadas.length :: h
  | .connect => []
  | .requestPairingCode phoneNumber =>
      if s.aceitaPareamento phoneNumber && s.socket.isNone then [] else h
  | .dispararReconexao => if s.reconexao = .armada then [] else h
  | _ => h

/-- A live socket is the one that is held, so there is at most one; and when a `cancelPairing` or
`disconnect` is over and `connect` was not called since it started, there is none and nothing is
scheduled. -/
structure UmaConexao (s : SessaoDaIgreja) (h : List Nat) : Prop where
  naMao : ∀ i, s.Vivo i → s.socket = some i
  desligada : ∀ k ∈ h, s.chamadas[k]? = some .fim →
    (∀ i, ¬ s.Vivo i) ∧ s.reconexao = .nenhuma

theorem UmaConexao.unica {s : SessaoDaIgreja} {h : List Nat} (one : UmaConexao s h) {i j : Nat}
    (first : s.Vivo i) (second : s.Vivo j) : i = j :=
  Option.some.inj ((one.naMao i first).symm.trans (one.naMao j second))

/-- A socket is made only when none that is held is live and what was turned off since the last
`connect` has still to end it; a close lets go only of a socket that is not live; and a `connect` of
the timer that failed is tried again only when nothing was turned off since. -/
def ComoEsperado (sh : SessaoDaIgreja × List Nat) : Acao → Prop
  | .seguir k retorno =>
      (∀ quem, sh.1.chamadas[k]? = some (.conectando quem .fetchLatestBaileysVersion) →
        retorno.isOk = true →
          (∀ i, sh.1.socket = some i → ¬ sh.1.Vivo i) ∧
            ∀ j ∈ sh.2, sh.1.chamadas[j]? = some .saindo) ∧
      (∀ codigo motivo, sh.1.chamadas[k]? = some (.fechando codigo motivo) → retorno.isOk = true →
        ∀ i, sh.1.socket = some i → ¬ sh.1.Vivo i) ∧
      ∀ erro, sh.1.chamadas[k]? = some (.reagendando erro) → sh.2 = []
  | _ => True

/-- What was turned off since the last `connect` says so, and past the end of the socket there is
none. -/
structure Parada (s : SessaoDaIgreja) (h : List Nat) : Prop where
  naMao : ∀ i, s.Vivo i → s.socket = some i
  dentro : ∀ k ∈ h, k < s.chamadas.length
  avisada : h ≠ [] → s.encerrando = true ∧ s.reconexao = .nenhuma
  passou : ∀ k ∈ h, s.chamadas[k]? ≠ some .saindo → ∀ i, ¬ s.Vivo i

theorem Parada.umaConexao {s : SessaoDaIgreja} {h : List Nat} (inv : Parada s h) :
    UmaConexao s h where
  naMao := inv.naMao
  desligada k mem over_ := by
    refine ⟨inv.passou k mem ?_, (inv.avisada (List.ne_nil_of_mem mem)).2⟩
    rw [over_]
    exact fun same => ChamadaDaSessao.noConfusion (Option.some.inj same)

/-! ### What each step leaves -/

section Passos

variable {s s' : SessaoDaIgreja} {h : List Nat} {k : Nat}

theorem not_vivo_fechado {i : Nat} : ¬ (s.fecharSocket i).Vivo i := by
  intro live
  rw [Vivo, fecharSocket, List.getElem?_set_self'] at live
  cases there : s.sockets[i]? with
  | none =>
      rw [there] at live
      cases live
  | some _ =>
      rw [there] at live
      cases live

theorem vivo_of_fecharSocket {i j : Nat} (live : (s.fecharSocket i).Vivo j) : s.Vivo j := by
  by_cases same : i = j
  · subst same
    exact absurd live not_vivo_fechado
  · rwa [Vivo, fecharSocket, List.getElem?_set_ne same] at live

theorem vivo_of_endSocket {j : Nat} (live : s.endSocket.Vivo j) : s.Vivo j := by
  unfold endSocket at live
  split at live
  · exact vivo_of_fecharSocket live
  · exact live

@[simp] theorem endSocket_socket : s.endSocket.socket = s.socket := by
  unfold endSocket
  split <;> rfl

@[simp] theorem endSocket_encerrando : s.endSocket.encerrando = s.encerrando := by
  unfold endSocket
  split <;> rfl

@[simp] theorem endSocket_reconexao : s.endSocket.reconexao = s.reconexao := by
  unfold endSocket
  split <;> rfl

@[simp] theorem endSocket_chamadas : s.endSocket.chamadas = s.chamadas := by
  unfold endSocket
  split <;> rfl

/-- When only the held socket may be live, letting it go leaves none. -/
theorem not_vivo_endSocket (naMao : ∀ i, s.Vivo i → s.socket = some i) (j : Nat) :
    ¬ s.endSocket.Vivo j := by
  intro live
  have held := naMao j (vivo_of_endSocket live)
  unfold endSocket at live
  rw [held] at live
  exact not_vivo_fechado live

/-- A step that opens no socket, lets none go, schedules nothing and turns nothing off. -/
theorem Parada.quieta (inv : Parada s h) (vivos : ∀ i, s'.Vivo i → s.Vivo i)
    (socket : s'.socket = s.socket) (encerrando : s.encerrando = true → s'.encerrando = true)
    (reconexao : s.reconexao = .nenhuma → s'.reconexao = .nenhuma)
    (inside : s.chamadas.length ≤ s'.chamadas.length)
    (calls : ∀ j ∈ h, s'.chamadas[j]? ≠ some .saindo → s.chamadas[j]? ≠ some .saindo) :
    Parada s' h where
  naMao i live := socket.trans (inv.naMao i (vivos i live))
  dentro j mem := Nat.lt_of_lt_of_le (inv.dentro j mem) inside
  avisada some :=
    ⟨encerrando (inv.avisada some).1, reconexao (inv.avisada some).2⟩
  passou j mem past i live := inv.passou j mem (calls j mem past) i (vivos i live)

/-- A call that moved was in its logout, or nobody else's logout changed. -/
theorem not_saindo_of_mover {antes depois : ChamadaDaSessao} (here : s.chamadas[k]? = some antes)
    (other : antes ≠ .saindo) (j : Nat) (past : (s.chamadas.set k depois)[j]? ≠ some .saindo) :
    s.chamadas[j]? ≠ some .saindo := by
  by_cases same : k = j
  · subst same
    rw [here]
    exact fun equal => other (Option.some.inj equal)
  · rwa [List.getElem?_set_ne same] at past

theorem Parada.iniciar (inv : Parada s h) (c : ChamadaDaSessao) : Parada (s.iniciar c) h := by
  refine inv.quieta (fun _ live => live) rfl id id ?_ fun j mem past => ?_
  · rw [SessaoDaIgreja.iniciar, List.length_append]
    exact Nat.le_add_right _ _
  · rwa [SessaoDaIgreja.iniciar, List.getElem?_append_left (inv.dentro j mem)] at past

/-- A call goes on, and the session changes in what the law does not read. -/
theorem Parada.mover (inv : Parada s h) {antes depois : ChamadaDaSessao}
    (here : s.chamadas[k]? = some antes) (other : antes ≠ .saindo)
    (sockets : s'.sockets = s.sockets)
    (socket : s'.socket = s.socket) (encerrando : s'.encerrando = s.encerrando)
    (reconexao : s'.reconexao = s.reconexao) (chamadas : s'.chamadas = s.chamadas) :
    Parada (s'.mover k depois) h := by
  refine inv.quieta (fun i live => ?_) socket (fun was => encerrando.trans was)
    (fun calm => reconexao.trans calm) ?_ fun j _ past => ?_
  · rw [Vivo, ← sockets]
    exact live
  · rw [SessaoDaIgreja.mover, List.length_set, chamadas]
  · rw [SessaoDaIgreja.mover, chamadas] at past
    exact not_saindo_of_mover here other j past

/-- After a call of `connect`, nothing that was turned off counts. -/
theorem Parada.connect (naMao : ∀ i, s.Vivo i → s.socket = some i) (quem : QuemConecta) :
    Parada (s.connect quem) [] where
  naMao i live := by
    unfold SessaoDaIgreja.connect at live ⊢
    split at live
    · exact naMao i live
    · exact naMao i live
  dentro _ mem := absurd mem List.not_mem_nil
  avisada absent := absurd rfl absent
  passou _ mem := absurd mem List.not_mem_nil

/-- What turns the session off: no socket is left, and one more call is on the list. -/
theorem Parada.desligar (inv : Parada s h) (vivos : ∀ i, ¬ s'.Vivo i)
    (encerrando : s'.encerrando = true) (reconexao : s'.reconexao = .nenhuma)
    (chamadas : s'.chamadas = s.chamadas) (c : ChamadaDaSessao) :
    Parada (s'.iniciar c) (s.chamadas.length :: h) where
  naMao i live := absurd live (vivos i)
  dentro j mem := by
    rw [SessaoDaIgreja.iniciar, chamadas, List.length_append, List.length_singleton]
    rcases List.mem_cons.mp mem with rfl | old
    · exact Nat.lt_succ_self _
    · exact Nat.lt_succ_of_lt (inv.dentro j old)
  avisada _ := ⟨encerrando, reconexao⟩
  passou _ _ _ := vivos

/-- The session, told to stop and with its socket let go. -/
theorem parada_soltarSocket (naMao : ∀ i, s.Vivo i → s.socket = some i) :
    let parada := { s with encerrando := true }.cancelaReconexao.soltarSocket
    (∀ i, ¬ parada.Vivo i) ∧ parada.encerrando = true ∧ parada.reconexao = .nenhuma ∧
      parada.chamadas = s.chamadas := by
  have ended : ∀ i, ¬ ({ s with encerrando := true }.cancelaReconexao.endSocket).Vivo i :=
    not_vivo_endSocket naMao
  exact ⟨ended, endSocket_encerrando, endSocket_reconexao, endSocket_chamadas⟩

theorem parada_cancelPairing (inv : Parada s h) (registered : Bool) :
    Parada (s.cancelPairing registered) (s.chamadas.length :: h) := by
  obtain ⟨ended, told, calm, calls⟩ := parada_soltarSocket inv.naMao
  unfold cancelPairing
  dsimp only
  split
  · refine inv.desligar ?_ ?_ ?_ ?_ _
    · exact ended
    · exact told
    · exact calm
    · exact calls
  · exact inv.desligar ended told calm calls _

/-- In its logout a `disconnect` has still to end the socket. -/
theorem parada_disconnect (inv : Parada s h) : Parada s.disconnect (s.chamadas.length :: h) := by
  unfold disconnect
  dsimp only
  split
  · refine ⟨inv.naMao, fun j mem => ?_, fun _ => ⟨rfl, rfl⟩, fun j mem past => ?_⟩
    · rw [iniciar, List.length_append, List.length_singleton]
      rcases List.mem_cons.mp mem with rfl | old
      · exact Nat.lt_succ_self _
      · exact Nat.lt_succ_of_lt (inv.dentro j old)
    · rcases List.mem_cons.mp mem with rfl | old
      · exact absurd List.getElem?_concat_length past
      · refine inv.passou j old fun before => past ?_
        exact (List.getElem?_append_left (inv.dentro j old)).trans before
  · obtain ⟨ended, told, calm, calls⟩ := parada_soltarSocket inv.naMao
    exact inv.desligar ended told calm calls _

theorem parada_encerrar (inv : Parada s h) : Parada s.encerrar h := by
  have before : ∀ i, ({ s with encerrando := true }.cancelaReconexao.endSocket).Vivo i →
      ({ s with encerrando := true }.cancelaReconexao).Vivo i := fun _ => vivo_of_endSocket
  have socket : s.encerrar.socket = s.socket := endSocket_socket
  have calls : s.encerrar.chamadas = s.chamadas := endSocket_chamadas
  have calm : s.encerrar.reconexao = .nenhuma := endSocket_reconexao
  refine inv.quieta (fun i live => before i live) socket (fun _ => endSocket_encerrando) (fun _ =>
    calm) ?_
    fun j _ past => ?_
  · rw [calls]
  · rwa [calls] at past

theorem parada_aoMudarConexao (inv : Parada s h) (origem : Nat) (u : ConnectionUpdate) :
    Parada (s.aoMudarConexao origem u) h := by
  -- the socket that reports its close is not live any more
  have told : Parada (if u.connection = some .close then s.fecharSocket origem else s) h := by
    split
    · exact inv.quieta (fun _ live => vivo_of_fecharSocket live) rfl id id le_rfl fun _ _ past =>
        past
    · exact inv
  unfold aoMudarConexao
  dsimp only
  generalize (if u.connection = some .close then s.fecharSocket origem else s) = avisada at told
  have read : Parada (avisada.lerQr u.qr) h := by
    unfold lerQr
    split
    · split
      · exact told
      · exact told.quieta (fun _ live => live) rfl id id le_rfl fun _ _ past => past
    · exact told
  split
  · unfold mudarConexao
    dsimp only
    split
    · exact read.quieta (fun _ live => live) rfl id id le_rfl fun _ _ past => past
    · exact read.iniciar _
    · exact read
  · exact told

/-- A socket is made where none that is held is live and the logouts have still to end. -/
theorem parada_abrirSocket (inv : Parada s h) {quem : QuemConecta}
    (here : s.chamadas[k]? = some (.conectando quem .fetchLatestBaileysVersion))
    (idle : ∀ i, s.socket = some i → ¬ s.Vivo i)
    (leaving : ∀ j ∈ h, s.chamadas[j]? = some .saindo) : Parada (s.abrirSocket k quem) h where
  naMao i live := by
    have there : (s.sockets ++ [true])[i]? = some true := live
    rcases getElem?_begun there with old | ⟨rfl, _⟩
    · exact absurd old (idle i (inv.naMao i old))
    · rfl
  dentro j mem := Nat.lt_of_lt_of_eq (inv.dentro j mem) List.length_set.symm
  avisada := inv.avisada
  passou j mem past := by
    have waiting : ChamadaDaSessao.conectando quem .fetchLatestBaileysVersion ≠ .saindo :=
      ChamadaDaSessao.noConfusion
    exact absurd (leaving j mem) (not_saindo_of_mover here waiting j past)

/-- A close lets go of a socket that is not live. -/
theorem parada_seguirFechamento (inv : Parada s h) {codigo : DisconnectReason}
    {motivo : Option String} (idle : ∀ i, s.socket = some i → ¬ s.Vivo i) :
    Parada (s.seguirFechamento k codigo motivo) h := by
  have dead : ∀ i, ¬ s.Vivo i := fun i live => idle i (inv.naMao i live) live
  have inside : ∀ c, ∀ j ∈ h, j < (s.chamadas.set k c).length := fun c j mem =>
    Nat.lt_of_lt_of_eq (inv.dentro j mem) List.length_set.symm
  unfold seguirFechamento
  dsimp only
  split
  · exact ⟨fun i live => absurd live (dead i), inside _, inv.avisada, fun _ _ _ => dead⟩
  · split
    · exact ⟨fun i live => absurd live (dead i), inside _, inv.avisada, fun _ _ _ => dead⟩
    · next goes =>
        -- nothing was turned off: the session would have been told to stop
        exact ⟨fun i live => absurd live (dead i), inside _,
          fun some => absurd (inv.avisada some).1 goes, fun _ _ _ => dead⟩

/-- The end of a logout ends the socket that is held. -/
theorem parada_saindo (inv : Parada s h) : Parada (s.soltarSocket.mover k .limpando) h := by
  have dead : ∀ i, ¬ s.endSocket.Vivo i := not_vivo_endSocket inv.naMao
  have calls : s.endSocket.chamadas.length = s.chamadas.length := by rw [endSocket_chamadas]
  refine ⟨fun i live => absurd live (dead i), fun j mem => ?_, fun some => ?_, fun _ _ _ => dead⟩
  · exact Nat.lt_of_lt_of_eq (inv.dentro j mem) (calls.symm.trans List.length_set.symm)
  · exact ⟨endSocket_encerrando.trans (inv.avisada some).1,
      endSocket_reconexao.trans (inv.avisada some).2⟩

/-- What the timer's `catch` schedules counts against nothing that was turned off. -/
theorem parada_reagendando (inv : Parada s []) (erro : String) :
    Parada ({ s with lastError := some erro }.agendaReconexao.mover k .fim) [] where
  naMao := inv.naMao
  dentro _ mem := absurd mem List.not_mem_nil
  avisada absent := absurd rfl absent
  passou _ mem := absurd mem List.not_mem_nil

theorem parada_seguir (inv : Parada s h) {c : ChamadaDaSessao} {retorno : Except String String}
    (here : s.chamadas[k]? = some c) (guard : ComoEsperado (s, h) (.seguir k retorno)) :
    Parada (s.seguir k c retorno) h := by
  obtain ⟨opens, closes, retries⟩ := guard
  -- where the call was not in its logout, most of what goes on is not read by the law
  have moved : ∀ {s' : SessaoDaIgreja} {depois}, c ≠ .saindo → s'.sockets = s.sockets →
      s'.socket = s.socket → s'.encerrando = s.encerrando → s'.reconexao = s.reconexao →
      s'.chamadas = s.chamadas → Parada (s'.mover k depois) h := inv.mover here
  cases c with
  | conectando quem espera =>
      have waiting : ChamadaDaSessao.conectando quem espera ≠ .saindo := ChamadaDaSessao.noConfusion
      cases retorno with
      | ok _ =>
          cases espera with
          | loadBaileys => exact moved waiting rfl rfl rfl rfl rfl
          | useDatabaseAuthState => exact moved waiting rfl rfl rfl rfl rfl
          | fetchLatestBaileysVersion =>
              obtain ⟨idle, leaving⟩ := opens quem here rfl
              exact parada_abrirSocket inv here idle leaving
      | error erro => cases quem <;> exact moved waiting rfl rfl rfl rfl rfl
  | reagendando erro =>
      obtain rfl : h = [] := retries erro here
      exact parada_reagendando inv erro
  | esperandoQr numero i => exact moved ChamadaDaSessao.noConfusion rfl rfl rfl rfl rfl
  | saindo => exact parada_saindo inv
  | fechando codigo motivo =>
      cases retorno with
      | ok _ => exact parada_seguirFechamento inv (closes codigo motivo here rfl)
      | error erro => exact moved ChamadaDaSessao.noConfusion rfl rfl rfl rfl rfl
  | fim => exact moved ChamadaDaSessao.noConfusion rfl rfl rfl rfl rfl
  | pedindoCodigo | cancelando | limpando | limpandoFechada =>
      cases retorno <;> exact moved ChamadaDaSessao.noConfusion rfl rfl rfl rfl rfl

theorem parada_requestPairingCode (inv : Parada s h) (phoneNumber : String) :
    Parada (s.requestPairingCode phoneNumber)
      (if s.aceitaPareamento phoneNumber && s.socket.isNone then [] else h) := by
  unfold requestPairingCode
  dsimp only
  cases s.aceitaPareamento phoneNumber with
  | false => exact inv
  | true =>
      cases held : s.socket with
      | none => exact Parada.connect inv.naMao _
      | some i => exact inv.iniciar _

end Passos

/-- Each expected step keeps the session and its history in order. -/
theorem parada_agir (sh : SessaoDaIgreja × List Nat) (a : Acao) (inv : Parada sh.1 sh.2)
    (guard : ComoEsperado sh a) :
    Parada (withHistory agir registrar sh a).1 (withHistory agir registrar sh a).2 := by
  obtain ⟨s, h⟩ := sh
  cases a with
  | connect => exact Parada.connect inv.naMao .pedido
  | requestPairingCode phoneNumber =>
      simp only [withHistory, agir, registrar]
      exact parada_requestPairingCode inv phoneNumber
  | cancelPairing registered => exact parada_cancelPairing inv registered
  | disconnect => exact parada_disconnect inv
  | encerrar => exact parada_encerrar inv
  | evento origem u => exact parada_aoMudarConexao inv origem u
  | dispararReconexao =>
      simp only [withHistory, agir, registrar]
      split
      · exact @Parada.connect { s with reconexao := .disparada } inv.naMao .temporizador
      · exact inv
  | seguir k retorno =>
      simp only [withHistory, agir, registrar]
      split
      · next c here => exact parada_seguir inv here guard
      · exact inv

/-! ### Runs -/

theorem parada_nova : Parada nova [] where
  naMao _ live := by cases live
  dentro _ mem := absurd mem List.not_mem_nil
  avisada absent := absurd rfl absent
  passou _ mem := absurd mem List.not_mem_nil

/-- In every run of a new session whose steps are as expected, at most one socket is live, it is the
one that is held, and what was turned off stays off until `connect` is called. -/
theorem umaConexao_run (acoes : List Acao)
    (guarded : EachStep (withHistory agir registrar) ComoEsperado (nova, []) acoes) :
    Always (withHistory agir registrar) (fun sh => UmaConexao sh.1 sh.2) (nova, []) acoes := by
  have kept := always_of_eachStep parada_agir parada_nova guarded
  exact kept.mono fun _ inv => inv.umaConexao

end SessaoDaIgreja

/-! ### A church that pairs, and is paired twice -/

namespace PareamentoDaIgreja

/-- A call of `connect` goes through its three awaits. -/
def conecta (k : Nat) : List SessaoDaIgreja.Acao :=
  [.seguir k (.ok ""), .seguir k (.ok ""), .seguir k (.ok "")]

end PareamentoDaIgreja

open PareamentoDaIgreja in
/-- The admin asks for the QR and gives it up. -/
theorem umaConexao_run_cancelada :
    Always (withHistory SessaoDaIgreja.agir SessaoDaIgreja.registrar)
      (fun sh => SessaoDaIgreja.UmaConexao sh.1 sh.2) (SessaoDaIgreja.nova, [])
      (.connect :: (conecta 0 ++ [.cancelPairing false, .seguir 1 (.ok "")])) := by
  refine SessaoDaIgreja.umaConexao_run _ ⟨trivial, ⟨fun quem here _ => ?_, ?_⟩,
    ⟨fun quem here _ => ?_, ?_⟩, ⟨fun quem _ _ => ⟨fun i held => ?_, fun j mem => ?_⟩, ?_⟩, trivial,
    ⟨fun quem here _ => ?_, ?_⟩, trivial⟩
  -- the socket is made with none before it, and nothing turned off
  case refine_5 => cases held
  case refine_6 => cases mem
  all_goals first
    | cases here
    | refine ⟨fun codigo motivo here _ => ?_, fun erro here => ?_⟩ <;> cases here

open PareamentoDaIgreja in
/-- Two calls of `connect` in flight make a socket each, and the first is live and held by
nobody. -/
theorem not_umaConexao_doisConnects :
    ¬ Always (withHistory SessaoDaIgreja.agir SessaoDaIgreja.registrar)
      (fun sh => SessaoDaIgreja.UmaConexao sh.1 sh.2) (SessaoDaIgreja.nova, [])
      (.connect :: .connect :: (conecta 0 ++ conecta 1)) := by
  intro always
  have law : SessaoDaIgreja.UmaConexao
      (runFrom (withHistory SessaoDaIgreja.agir SessaoDaIgreja.registrar) (SessaoDaIgreja.nova, [])
        (.connect :: .connect :: (conecta 0 ++ conecta 1))).1 _ := always.last
  have held := law.naMao 0 rfl
  cases held

end IccvBackend
