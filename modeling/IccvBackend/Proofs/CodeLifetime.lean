/-
Module: IccvBackend.Proofs.CodeLifetime
Purpose: How long a reset code lives: its validity, and what verifying it again adds to it.
Trusted boundary: none
Main exports: Acesso.NoPrazo, Acesso.SemRenovar, verifyCode_ok_iff, noPrazo_iff_semRenovar
-/
import IccvBackend.Auth.PasswordReset
import IccvBackend.Proofs.Profiles

namespace IccvBackend

open Lib

/-! ### The law -/

namespace Acesso

/-- A code gives a ticket in its sixty minutes only, and its tickets a password in the fifteen that
follow. -/
def NoPrazo (cripto : Cripto) (db : Acesso) : AcaoDeSenha → Prop
  | .requestReset _ _ _ => True
  | .verifyCode document code ticket agora =>
      ∀ token, db.codigoDe document = some token →
        (db.verifyCode cripto document code ticket agora).2 = .ok ticket →
          agora < token.createdAt + 60 * 60_000
  | .resetPassword ticket password agora =>
      ∀ token, db.doTicket cripto ticket = some token →
        (db.resetPassword cripto ticket password agora).2 = .ok () →
          agora < token.createdAt + 75 * 60_000

/-- Nobody verifies the right code again, sixty minutes after it was sent or later, for a token that
holds a ticket in force. -/
def SemRenovar (cripto : Cripto) (db : Acesso) : AcaoDeSenha → Prop
  | .verifyCode document code ticket agora =>
      ∀ token, db.codigoDe document = some token → token.ticketHash.isSome →
        token.morto agora = false → cripto.compara code token.codeHash →
          db.ticketRepetido token.id (cripto.sha256 ticket) = false →
            agora < token.createdAt + codeTtl
  | _ => True

/-- The keys of the tokens, and the validity of the codes and of the tickets. -/
structure PrazosEmDia (db : Acesso) : Prop where
  chaves : Keyed UserToken.id db.painel.nextId db.tokens
  codigo : ∀ token ∈ db.tokens, token.type = tokenTypePasswordReset → token.ticketHash = none →
    token.expiresAt = token.createdAt + codeTtl
  ticket : ∀ token ∈ db.tokens, token.type = tokenTypePasswordReset → token.ticketHash.isSome →
    token.expiresAt < token.createdAt + codeTtl + ticketTtl

end Acesso

/-! ### The rows found -/

section Tokens

variable {db depois : Acesso} {cripto : Cripto} {userId id : Id} {type : Nat} {token : UserToken}
  {document code ticket password hash : String} {agora : Instant}

theorem tokenAtivo_mem (found : db.tokenAtivo userId type = some token) :
    token ∈ db.tokens ∧ token.userId = userId ∧ token.type = type := by
  obtain ⟨mem, here⟩ := List.mem_filter.mp (firstMax_mem found)
  simp only [Bool.and_eq_true, decide_eq_true_eq] at here
  exact ⟨mem, here⟩

theorem codigoDe_mem (found : db.codigoDe document = some token) :
    token ∈ db.tokens ∧ token.type = tokenTypePasswordReset := by
  simp only [Acesso.codigoDe, Option.bind_eq_bind, Option.bind_eq_some_iff] at found
  obtain ⟨user, _, found⟩ := found
  obtain ⟨mem, _, reset⟩ := tokenAtivo_mem found
  exact ⟨mem, reset⟩

theorem doTicket_mem (found : db.doTicket cripto ticket = some token) :
    token ∈ db.tokens ∧ token.type = tokenTypePasswordReset ∧ token.ticketHash.isSome := by
  have here := List.find?_some found
  simp only [Bool.and_eq_true, decide_eq_true_eq] at here
  exact ⟨List.mem_of_find?_eq_some found, here.2, by simp [here.1]⟩

theorem not_morto (vivo : token.morto agora = false) :
    agora < token.expiresAt ∧ token.attempts < maxCodeAttempts := by
  simpa [UserToken.morto] using vivo

/-! ### The answers -/

/-- `update` finds the row that was read. -/
theorem gravarToken_of_mem (mem : token ∈ db.tokens) (f : UserToken → UserToken) :
    db.gravarToken token.id f =
      .ok { db with tokens := updateKey UserToken.id token.id f db.tokens } := by
  obtain ⟨row, found⟩ := Option.isSome_iff_exists.mp (lookup_isSome_of_mem UserToken.id mem)
  simp [Acesso.gravarToken, found, orFail, bind, Except.bind, pure, Except.pure]

theorem contarErro_of_mem (mem : token ∈ db.tokens) : db.contarErro token = .ok
    (if maxCodeAttempts ≤ token.attempts + 1 then db.discard token.id
      else { db with
        tokens :=
          updateKey UserToken.id token.id (Acesso.comErros (token.attempts + 1)) db.tokens }) := by
  unfold Acesso.contarErro
  dsimp only
  split
  · rfl
  · exact gravarToken_of_mem mem _

theorem entregarTicket_ok_iff (mem : token ∈ db.tokens) :
    db.entregarTicket token.id hash agora = .ok depois ↔
      db.ticketRepetido token.id hash = false ∧
        depois = { db with
          tokens := updateKey UserToken.id token.id (Acesso.comTicket hash agora) db.tokens } := by
  simp only [Acesso.entregarTicket, bind_eq_ok_iff, failIf_eq_ok_iff, exists_const,
    gravarToken_of_mem mem, Except.ok.injEq, Bool.not_eq_true]
  exact and_congr_right fun _ => eq_comm

/-- What a verification that gives a ticket has met. -/
def Acesso.Confere (db : Acesso) (cripto : Cripto) (code ticket : String) (agora : Instant)
    (token : UserToken) : Prop :=
  token.morto agora = false ∧ cripto.compara code token.codeHash ∧
    db.ticketRepetido token.id (cripto.sha256 ticket) = false

/-- The ends of a verification. -/
inductive FimDeVerificacao (db : Acesso) (cripto : Cripto) (code ticket : String) (agora : Instant)
    (token : UserToken) : Acesso × Except Failure String → Prop where
  | recusado {depois : Acesso} (e : Failure) (fora : ¬ db.Confere cripto code ticket agora token)
      (escrito : depois = db ∨ depois = db.discard token.id ∨ depois = { db with
        tokens :=
          updateKey UserToken.id token.id (Acesso.comErros (token.attempts + 1)) db.tokens }) :
      FimDeVerificacao db cripto code ticket agora token (depois, .error e)
  | entregue (confere : db.Confere cripto code ticket agora token) :
      FimDeVerificacao db cripto code ticket agora token
        ({ db with
          tokens := updateKey UserToken.id token.id
            (Acesso.comTicket (cripto.sha256 ticket) agora) db.tokens }, .ok ticket)

theorem verifyCode_ends (cripto : Cripto) (code ticket : String) (agora : Instant)
    (found : db.codigoDe document = some token) :
    FimDeVerificacao db cripto code ticket agora token
      (db.verifyCode cripto document code ticket agora) := by
  have mem := (codigoDe_mem found).1
  unfold Acesso.verifyCode
  rw [found]
  dsimp only
  split
  · rename_i morto
    exact .recusado _ (fun met => by simp [met.1] at morto) (.inr (.inl rfl))
  split
  · rename_i wrong
    rw [contarErro_of_mem mem]
    refine .recusado _ (fun met => by simp [met.2.1] at wrong) ?_
    by_cases last : maxCodeAttempts ≤ token.attempts + 1
    · exact .inr (.inl (if_pos last))
    · exact .inr (.inr (if_neg last))
  rename_i vivo right
  have confere : db.ticketRepetido token.id (cripto.sha256 ticket) = false →
      db.Confere cripto code ticket agora token :=
    fun fresh => ⟨by simpa using vivo, by simpa using right, fresh⟩
  cases given : db.entregarTicket token.id (cripto.sha256 ticket) agora with
  | error e =>
      refine .recusado e (fun met => ?_) (.inl rfl)
      have ok : db.entregarTicket token.id (cripto.sha256 ticket) agora = .ok _ :=
        (entregarTicket_ok_iff mem).mpr ⟨met.2.2, rfl⟩
      rw [given] at ok
      cases ok
  | ok depois =>
      obtain ⟨fresh, rfl⟩ := (entregarTicket_ok_iff mem).mp given
      exact .entregue (confere fresh)

/-- When a verification gives its ticket. -/
theorem verifyCode_ok_iff (found : db.codigoDe document = some token) :
    (db.verifyCode cripto document code ticket agora).2 = .ok ticket ↔
      db.Confere cripto code ticket agora token := by
  have ends := verifyCode_ends cripto code ticket agora found
  revert ends
  generalize db.verifyCode cripto document code ticket agora = fim
  rintro (⟨e, fora, _⟩ | ⟨confere⟩)
  · exact iff_of_false (by simp) fora
  · exact iff_of_true rfl confere

/-- What a reset checks of the row it found. -/
theorem resetPassword_ok (found : db.doTicket cripto ticket = some token)
    (ok : (db.resetPassword cripto ticket password agora).2 = .ok ()) :
    agora < token.expiresAt := by
  by_contra expired
  simp [Acesso.resetPassword, found, Nat.not_lt.mp expired] at ok

end Tokens

/-! ### One step -/

section Passos

variable {db depois : Acesso} {cripto : Cripto} {id : Id} {token : UserToken}
  {document codigo code ticket password : String} {agora : Instant}

/-- Fewer tokens. -/
theorem prazosEmDia_of_sublist (emDia : db.PrazosEmDia) (sub : depois.tokens.Sublist db.tokens)
    (next : depois.painel.nextId = db.painel.nextId) : depois.PrazosEmDia :=
  ⟨next ▸ emDia.chaves.sublist sub, fun token mem => emDia.codigo token (sub.subset mem),
    fun token mem => emDia.ticket token (sub.subset mem)⟩

theorem prazosEmDia_novoToken (emDia : db.PrazosEmDia) (userId : Id) (hash : String) :
    (db.gravarCodigo userId hash agora).PrazosEmDia := by
  have antigos : (db.apagarTokens userId tokenTypePasswordReset).PrazosEmDia :=
    prazosEmDia_of_sublist emDia List.filter_sublist rfl
  refine ⟨antigos.chaves.append_fresh rfl, ?_, ?_⟩
  · intro token mem reset semTicket
    rcases List.mem_append.mp mem with old | new
    · exact antigos.codigo token old reset semTicket
    · obtain rfl := List.mem_singleton.mp new
      rfl
  · intro token mem reset comTicket
    rcases List.mem_append.mp mem with old | new
    · exact antigos.ticket token old reset comTicket
    · obtain rfl := List.mem_singleton.mp new
      cases comTicket

theorem prazosEmDia_requestReset (emDia : db.PrazosEmDia) :
    (db.requestReset cripto document codigo agora).PrazosEmDia := by
  unfold Acesso.requestReset
  split
  · exact emDia
  split
  · exact emDia
  · exact prazosEmDia_novoToken emDia _ _

/-- Counting a wrong code touches no instant. -/
theorem prazosEmDia_comErros (emDia : db.PrazosEmDia) (attempts : Nat) :
    { db with
      tokens := updateKey UserToken.id id (Acesso.comErros attempts) db.tokens }.PrazosEmDia := by
  refine ⟨emDia.chaves.map fun token => by split <;> rfl, ?_, ?_⟩
  · intro token mem reset semTicket
    rcases mem_updateKey.mp mem with ⟨old, old_mem, _, rfl⟩ | ⟨old, _⟩
    · exact emDia.codigo old old_mem reset semTicket
    · exact emDia.codigo token old reset semTicket
  · intro token mem reset comTicket
    rcases mem_updateKey.mp mem with ⟨old, old_mem, _, rfl⟩ | ⟨old, _⟩
    · exact emDia.ticket old old_mem reset comTicket
    · exact emDia.ticket token old reset comTicket

/-- A ticket given in the sixty minutes of its code is over in seventy-five. -/
theorem prazosEmDia_comTicket (emDia : db.PrazosEmDia) (mem : token ∈ db.tokens) (hash : String)
    (noPrazo : agora < token.createdAt + codeTtl) :
    { db with
      tokens :=
        updateKey UserToken.id token.id (Acesso.comTicket hash agora) db.tokens }.PrazosEmDia := by
  refine ⟨emDia.chaves.map fun token => by split <;> rfl, ?_, ?_⟩
  · intro row row_mem reset semTicket
    rcases mem_updateKey.mp row_mem with ⟨old, _, _, rfl⟩ | ⟨old, _⟩
    · cases semTicket
    · exact emDia.codigo row old reset semTicket
  · intro row row_mem reset comTicket
    rcases mem_updateKey.mp row_mem with ⟨old, old_mem, same, rfl⟩ | ⟨old, _⟩
    · obtain rfl := emDia.chaves.eq_of_key_eq old_mem mem same
      exact Nat.add_lt_add_right noPrazo ticketTtl
    · exact emDia.ticket row old reset comTicket

/-- A verification that gives a ticket gives it in the sixty minutes, when the guard is met. -/
theorem noPrazo_of_confere (emDia : db.PrazosEmDia)
    (guarda : db.SemRenovar cripto (.verifyCode document code ticket agora))
    (found : db.codigoDe document = some token)
    (confere : db.Confere cripto code ticket agora token) : agora < token.createdAt + codeTtl := by
  obtain ⟨mem, reset⟩ := codigoDe_mem found
  cases semTicket : token.ticketHash with
  | none =>
      -- the code was never verified: its validity is the sixty minutes
      rw [← emDia.codigo token mem reset semTicket]
      exact (not_morto confere.1).1
  | some hash =>
      exact guarda token found (by simp [semTicket]) confere.1 confere.2.1 confere.2.2

theorem prazosEmDia_step (acao : AcaoDeSenha) (emDia : db.PrazosEmDia)
    (guarda : db.SemRenovar cripto acao) : (db.stepDeSenha cripto acao).PrazosEmDia := by
  cases acao with
  | requestReset document codigo agora => exact prazosEmDia_requestReset emDia
  | verifyCode document code ticket agora =>
      cases found : db.codigoDe document with
      | none =>
          have same : db.stepDeSenha cripto (.verifyCode document code ticket agora) = db := by
            simp [Acesso.stepDeSenha, Acesso.verifyCode, found]
          rw [same]
          exact emDia
      | some token =>
          have ends := verifyCode_ends cripto code ticket agora found
          unfold Acesso.stepDeSenha
          dsimp only
          revert ends
          generalize db.verifyCode cripto document code ticket agora = fim
          rintro (⟨e, _, rfl | rfl | rfl⟩ | ⟨confere⟩)
          · exact emDia
          · exact prazosEmDia_of_sublist emDia List.filter_sublist rfl
          · exact prazosEmDia_comErros emDia _
          · exact prazosEmDia_comTicket emDia (codigoDe_mem found).1 _
              (noPrazo_of_confere emDia guarda found confere)
  | resetPassword ticket password agora =>
      unfold Acesso.stepDeSenha Acesso.resetPassword
      dsimp only
      split
      · exact emDia
      split
      · exact prazosEmDia_of_sublist emDia List.filter_sublist rfl
      split
      · rename_i saved
        simp only [Acesso.gravarSenha, Acesso.trocarSenha, bind_eq_ok_iff, orFail_eq_ok_iff,
          pure_eq_ok_iff] at saved
        obtain ⟨_, ⟨_, _, rfl⟩, rfl⟩ := saved
        exact prazosEmDia_of_sublist emDia List.filter_sublist rfl
      · exact emDia

/-- Of one step the law asks what the guard asks. -/
theorem noPrazo_iff (acao : AcaoDeSenha) (emDia : db.PrazosEmDia) :
    db.NoPrazo cripto acao ↔ db.SemRenovar cripto acao := by
  cases acao with
  | requestReset => exact Iff.rfl
  | verifyCode document code ticket agora =>
      constructor
      · exact fun law token found _ vivo right fresh =>
          law token found ((verifyCode_ok_iff found).mpr ⟨vivo, right, fresh⟩)
      · exact fun guarda token found ok =>
          noPrazo_of_confere emDia guarda found ((verifyCode_ok_iff found).mp ok)
  | resetPassword ticket password agora =>
      refine iff_of_true (fun token found ok => ?_) trivial
      obtain ⟨mem, reset, comTicket⟩ := doTicket_mem found
      have window := emDia.ticket token mem reset comTicket
      have vivo := resetPassword_ok found ok
      have total : codeTtl + ticketTtl = 75 * 60_000 := rfl
      rw [Nat.add_assoc, total] at window
      exact vivo.trans window

end Passos

/-! ### Runs -/

/-- In a run of requests, verifications and resets, at any instants, the codes and the tickets die
in time exactly when nobody renews the ticket of a code that is over. -/
theorem noPrazo_iff_semRenovar (cripto : Cripto) (db : Acesso) (emDia : db.PrazosEmDia)
    (acoes : List AcaoDeSenha) :
    EachStep (Acesso.stepDeSenha cripto) (Acesso.NoPrazo cripto) db acoes ↔
      EachStep (Acesso.stepDeSenha cripto) (Acesso.SemRenovar cripto) db acoes :=
  eachStep_iff_of_invariant
    (fun (db : Acesso) acao emDia =>
      (noPrazo_iff acao emDia : db.NoPrazo cripto acao ↔ db.SemRenovar cripto acao))
    (fun _ acao emDia guarda => prazosEmDia_step acao emDia guarda) emDia

/-! ### A code verified three times -/

namespace CodigoRenovado

/-- Codes and tickets in clear. -/
def cripto : Cripto := ⟨⟨id, fun code hash => code = hash⟩, id⟩

/-- Person 7 is registered, and no code was sent. -/
def acesso : Acesso := ⟨SedeComLider.painel, fun _ => none, [], [], []⟩

/-- The code is sent at 0, and verified at 59 and at 73 minutes; the password changes at 87. -/
def acoes : List AcaoDeSenha :=
  [.requestReset "1" "12345678" 0, .verifyCode "1" "12345678" "primeiro" (59 * 60_000),
    .verifyCode "1" "12345678" "segundo" (73 * 60_000),
    .resetPassword "segundo" "senha nova" (87 * 60_000)]

theorem prazosEmDia : acesso.PrazosEmDia :=
  ⟨.nil, fun _ absent => absurd absent List.not_mem_nil, fun _ absent =>
    absurd absent List.not_mem_nil⟩

/-- The second verification gives a ticket at 73 minutes. -/
theorem foraDoPrazo :
    ¬ EachStep (Acesso.stepDeSenha cripto) (Acesso.NoPrazo cripto) acesso acoes := by
  rintro ⟨_, _, segunda, _⟩
  have late := segunda
    ⟨100, 7, tokenTypePasswordReset, none, "12345678", some "primeiro", 0, 74 * 60_000, 0⟩
    (by decide +kernel) (by decide +kernel)
  exact absurd late (by decide)

end CodigoRenovado

theorem not_noPrazo_renovado :
    ¬ EachStep (Acesso.stepDeSenha CodigoRenovado.cripto) (Acesso.NoPrazo CodigoRenovado.cripto)
      CodigoRenovado.acesso CodigoRenovado.acoes :=
  CodigoRenovado.foraDoPrazo

/-- In that run the ticket of a code that is over is renewed. -/
theorem noPrazo_iff_semRenovar_renovado :
    ¬ EachStep (Acesso.stepDeSenha CodigoRenovado.cripto) (Acesso.SemRenovar CodigoRenovado.cripto)
      CodigoRenovado.acesso CodigoRenovado.acoes :=
  fun guarda => CodigoRenovado.foraDoPrazo <|
    (noPrazo_iff_semRenovar CodigoRenovado.cripto CodigoRenovado.acesso CodigoRenovado.prazosEmDia
      CodigoRenovado.acoes).mpr guarda

end IccvBackend
