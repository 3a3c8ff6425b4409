/-
Module: IccvBackend.Proofs.CodesInFlight
Purpose: How many wrong codes are compared with a token, and how often its ticket changes the
  password, whatever other calls are in flight.
Trusted boundary: none
Main exports: CodigosContados, ContagemEmDia, codigosContados_run, not_codigosContados_seis
-/
import IccvBackend.Auth.CodesInFlight
import IccvBackend.Proofs.CodeLifetime

namespace IccvBackend

open Lib

/-! ### The law -/

/-- Of each token at most five wrong codes were compared, and its ticket changed the password once
at most. -/
def CodigosContados (sr : AcessoEmCurso × RegistroDeCodigos) : Prop :=
  ∀ id, sr.2.errados.count id ≤ maxCodeAttempts ∧ sr.2.trocas.count id ≤ 1

/-- When a wrong code is compared, the attempts that the call read count all the wrong codes
compared with the token so far; and when a ticket changes the password, the row it was looked up in
is still there. -/
def ContagemEmDia (cripto : Cripto) (sr : AcessoEmCurso × RegistroDeCodigos) :
    AcessoEmCurso.Acao → Prop
  | .avancar k _ => ∀ c ∈ sr.1.chamadas[k]?,
      (∀ token ∈ c.errando cripto, sr.2.errados.count token.id ≤ token.attempts) ∧
        ∀ token ∈ c.trocando, ∃ row ∈ sr.1.db.tokens, row.id = token.id
  | _ => True

instance (cripto : Cripto) (sr : AcessoEmCurso × RegistroDeCodigos) :
    ∀ acao, Decidable (ContagemEmDia cripto sr acao)
  | .avancar k _ => inferInstanceAs (Decidable (∀ c ∈ sr.1.chamadas[k]?,
      (∀ token ∈ c.errando cripto, sr.2.errados.count token.id ≤ token.attempts) ∧
        ∀ token ∈ c.trocando, ∃ row ∈ sr.1.db.tokens, row.id = token.id))
  | .requestReset _ _ | .verifyCode _ _ _ | .resetPassword _ _ | .confirmarVinculo _ _
  | .vincular _ _ _ _ => inferInstanceAs (Decidable True)

/-! ### Tokens through the statements -/

/-- The tokens keep whose they are and what they are for, and new ones have new ids. -/
structure Sucede (db depois : Acesso) : Prop where
  chaves : Keyed UserToken.id depois.painel.nextId depois.tokens
  next : db.painel.nextId ≤ depois.painel.nextId
  vem : ∀ row ∈ depois.tokens, db.painel.nextId ≤ row.id ∨
    ∃ old ∈ db.tokens, old.id = row.id ∧ old.userId = row.userId ∧ old.type = row.type

section Tabelas

variable {db depois : Acesso} {userId id : Id} {type : Nat} {token : UserToken} {hash : String}
  {payload : Option ContaEscolhida} {f : UserToken → UserToken} {conta : ContaEscolhida}
  {vinculo : UserIdentity} {expiresAt agora : Instant}

/-- The keys of the tokens. -/
def Acesso.EmOrdem (db : Acesso) : Prop := Keyed UserToken.id db.painel.nextId db.tokens

theorem Sucede.refl (emOrdem : db.EmOrdem) : Sucede db db :=
  ⟨emOrdem, le_rfl, fun row mem => .inr ⟨row, mem, rfl, rfl, rfl⟩⟩

theorem sucede_of_sublist (emOrdem : db.EmOrdem) (sub : depois.tokens.Sublist db.tokens)
    (next : db.painel.nextId ≤ depois.painel.nextId) : Sucede db depois :=
  ⟨(emOrdem.mono next).sublist sub, next, fun row mem => .inr ⟨row, sub.subset mem, rfl, rfl, rfl⟩⟩

theorem sucede_novoToken (emOrdem : db.EmOrdem) :
    Sucede db (db.novoToken userId type payload hash expiresAt agora) := by
  have limpo : Keyed UserToken.id db.painel.nextId (db.apagarTokens userId type).tokens :=
    emOrdem.sublist List.filter_sublist
  refine ⟨limpo.append_fresh rfl, Nat.le_succ _, fun row mem => ?_⟩
  rcases List.mem_append.mp mem with old | new
  · exact .inr ⟨row, List.filter_sublist.subset old, rfl, rfl, rfl⟩
  · obtain rfl := List.mem_singleton.mp new
    exact .inl le_rfl

theorem sucede_gravarToken (emOrdem : db.EmOrdem) (ok : db.gravarToken id f = .ok depois)
    (same : ∀ row, (f row).id = row.id ∧ (f row).userId = row.userId ∧ (f row).type = row.type) :
    Sucede db depois := by
  simp only [Acesso.gravarToken, bind_eq_ok_iff, pure_eq_ok_iff] at ok
  obtain ⟨_, _, rfl⟩ := ok
  refine ⟨emOrdem.map fun row => ?_, le_rfl, fun row mem => .inr ?_⟩
  · split
    · exact (same row).1
    · rfl
  · rcases mem_updateKey.mp mem with ⟨old, old_mem, _, rfl⟩ | ⟨old, _⟩
    · exact ⟨old, old_mem, (same old).1.symm, (same old).2.1.symm, (same old).2.2.symm⟩
    · exact ⟨row, old, rfl, rfl, rfl⟩

theorem sucede_contarErro (emOrdem : db.EmOrdem) (ok : db.contarErro token = .ok depois) :
    Sucede db depois := by
  unfold Acesso.contarErro at ok
  dsimp only at ok
  split at ok
  · obtain rfl := Except.ok.inj ok
    exact sucede_of_sublist emOrdem List.filter_sublist le_rfl
  · exact sucede_gravarToken emOrdem ok fun _ => ⟨rfl, rfl, rfl⟩

theorem sucede_contarErroDoVinculo (emOrdem : db.EmOrdem)
    (ok : db.contarErroDoVinculo userId token = .ok depois) : Sucede db depois := by
  unfold Acesso.contarErroDoVinculo at ok
  dsimp only at ok
  split at ok
  · obtain rfl := Except.ok.inj ok
    exact sucede_of_sublist emOrdem List.filter_sublist le_rfl
  · exact sucede_gravarToken emOrdem ok fun _ => ⟨rfl, rfl, rfl⟩

theorem sucede_entregarTicket (emOrdem : db.EmOrdem)
    (ok : db.entregarTicket id hash agora = .ok depois) : Sucede db depois := by
  simp only [Acesso.entregarTicket, bind_eq_ok_iff] at ok
  obtain ⟨_, _, ok⟩ := ok
  exact sucede_gravarToken emOrdem ok fun _ => ⟨rfl, rfl, rfl⟩

theorem gravarSenha_ok (ok : db.gravarSenha userId hash agora = .ok depois) :
    depois.tokens = (db.apagarTokens userId tokenTypePasswordReset).tokens ∧
      depois.painel.nextId = db.painel.nextId := by
  simp only [Acesso.gravarSenha, Acesso.trocarSenha, bind_eq_ok_iff, pure_eq_ok_iff] at ok
  obtain ⟨_, ⟨_, _, rfl⟩, rfl⟩ := ok
  exact ⟨rfl, rfl⟩

theorem sucede_gravarSenha (emOrdem : db.EmOrdem)
    (ok : db.gravarSenha userId hash agora = .ok depois) : Sucede db depois := by
  obtain ⟨tokens, next⟩ := gravarSenha_ok ok
  exact sucede_of_sublist emOrdem (tokens ▸ List.filter_sublist) next.ge

theorem sucede_criarVinculo (emOrdem : db.EmOrdem)
    (ok : (db.criarVinculo userId conta agora).map Prod.fst = .ok depois) : Sucede db depois := by
  simp only [except_map_eq_ok_iff, Acesso.criarVinculo, bind_eq_ok_iff, pure_eq_ok_iff] at ok
  obtain ⟨_, ⟨_, _, rfl⟩, rfl⟩ := ok
  exact sucede_of_sublist emOrdem (List.Sublist.refl _) (Nat.le_succ _)

end Tabelas

/-! ### Calls -/

/-- What a call in flight relies on: the token it compares had attempts left when it was read, and
the row of the ticket it uses is whose it was, as long as it is there. -/
def ChamadaDeCodigo.Certa (db : Acesso) (c : ChamadaDeCodigo) : Prop :=
  (∀ par ∈ c.comparando, par.1.attempts < maxCodeAttempts) ∧
    ∀ token ∈ c.trocando, token.id < db.painel.nextId ∧
      ∀ row ∈ db.tokens, row.id = token.id →
        row.userId = token.userId ∧ row.type = tokenTypePasswordReset

section Chamadas

variable {db depois : Acesso} {cripto : Cripto} {agora : Instant} {c : ChamadaDeCodigo}
  {document codigo code ticket password : String} {userId : Id}

theorem ChamadaDeCodigo.Certa.sucede (certa : c.Certa db) (sucede : Sucede db depois) :
    c.Certa depois := by
  refine ⟨certa.1, fun token trocando => ?_⟩
  obtain ⟨given, row_same⟩ := certa.2 token trocando
  refine ⟨given.trans_le sucede.next, fun row mem named => ?_⟩
  rcases sucede.vem row mem with new | ⟨old, old_mem, same_id, same_user, same_type⟩
  · exact absurd (named ▸ new) (not_le.mpr given)
  · rw [← same_user, ← same_type]
    exact row_same old old_mem (same_id.trans named)

/-- A write, or the exception it throws. -/
theorem sucede_escrever {φ : Type} {escrita : Except Failure Acesso} {fase : φ} {erro : Failure → φ}
    (emOrdem : db.EmOrdem) (saved : ∀ depois, escrita = .ok depois → Sucede db depois) :
    Sucede db (ChamadaDeCodigo.escrever db escrita fase erro).1 := by
  cases escrita with
  | ok depois => exact saved depois rfl
  | error e => exact .refl emOrdem

theorem sucede_avancarPedido (emOrdem : db.EmOrdem) : ∀ fase : FaseDePedido,
    Sucede db (ChamadaDeCodigo.avancarPedido cripto db document codigo agora fase).1
  | .usuario => by
      simp only [ChamadaDeCodigo.avancarPedido]
      split <;> exact .refl emOrdem
  | .cooldown _ => .refl emOrdem
  | .gravar _ => sucede_novoToken emOrdem
  | .fim => .refl emOrdem

theorem sucede_avancarVerificacao (emOrdem : db.EmOrdem) : ∀ fase : FaseDeVerificacao,
    Sucede db (ChamadaDeCodigo.avancarVerificacao cripto db document code ticket agora fase).1
  | .usuario => by
      simp only [ChamadaDeCodigo.avancarVerificacao]
      split <;> exact .refl emOrdem
  | .buscar _ => by
      simp only [ChamadaDeCodigo.avancarVerificacao]
      split <;> exact .refl emOrdem
  | .descartar _ => sucede_of_sublist emOrdem List.filter_sublist le_rfl
  | .comparar _ => .refl emOrdem
  | .contar _ => sucede_escrever emOrdem fun _ => sucede_contarErro emOrdem
  | .entregar _ => sucede_escrever emOrdem fun _ => sucede_entregarTicket emOrdem
  | .fim _ => .refl emOrdem

theorem sucede_avancarTroca (emOrdem : db.EmOrdem) : ∀ fase : FaseDeTroca,
    Sucede db (ChamadaDeCodigo.avancarTroca cripto db ticket password agora fase).1
  | .buscar => by
      simp only [ChamadaDeCodigo.avancarTroca]
      split <;> exact .refl emOrdem
  | .descartar _ => sucede_of_sublist emOrdem List.filter_sublist le_rfl
  | .gravar _ => sucede_escrever emOrdem fun _ => sucede_gravarSenha emOrdem
  | .fim _ => .refl emOrdem

theorem sucede_avancarVinculo (emOrdem : db.EmOrdem) : ∀ fase : FaseDeVinculo,
    Sucede db (ChamadaDeCodigo.avancarVinculo cripto db userId codigo agora fase).1
  | .buscar => by
      simp only [ChamadaDeCodigo.avancarVinculo]
      split <;> exact .refl emOrdem
  | .descartar => sucede_of_sublist emOrdem List.filter_sublist le_rfl
  | .comparar _ => .refl emOrdem
  | .contar _ => sucede_escrever emOrdem fun _ => sucede_contarErroDoVinculo emOrdem
  | .conferir token => by
      simp only [ChamadaDeCodigo.avancarVinculo]
      split
      · exact .refl emOrdem
      · split <;> exact .refl emOrdem
  | .criar _ => sucede_escrever emOrdem fun _ => sucede_criarVinculo emOrdem
  | .limpar => sucede_of_sublist emOrdem List.filter_sublist le_rfl
  | .fim _ => .refl emOrdem

theorem sucede_avancar (emOrdem : db.EmOrdem) :
    ∀ c : ChamadaDeCodigo, Sucede db (c.avancar cripto db agora).1
  | .requestReset _ _ fase => sucede_avancarPedido emOrdem fase
  | .verifyCode _ _ _ fase => sucede_avancarVerificacao emOrdem fase
  | .resetPassword _ _ fase => sucede_avancarTroca emOrdem fase
  | .confirmarVinculo _ _ fase => sucede_avancarVinculo emOrdem fase

theorem certa_of_none (comparando : c.comparando = none) (trocando : c.trocando = none) :
    c.Certa db :=
  ⟨by simp [comparando], by simp [trocando]⟩

/-- A code is looked up with attempts left. -/
theorem attempts_of_busca {token : UserToken} (vivo : ¬ token.morto agora = true) :
    token.attempts < maxCodeAttempts :=
  (not_morto (Bool.eq_false_iff.mpr vivo)).2

theorem certa_avancarVerificacao (fase : FaseDeVerificacao) :
    (ChamadaDeCodigo.verifyCode document code ticket
      (ChamadaDeCodigo.avancarVerificacao cripto db document code ticket agora
        fase).2).Certa depois := by
  cases fase with
  | usuario =>
      simp only [ChamadaDeCodigo.avancarVerificacao]
      split <;> exact certa_of_none rfl rfl
  | buscar userId =>
      simp only [ChamadaDeCodigo.avancarVerificacao]
      split
      · exact certa_of_none rfl rfl
      dsimp only
      split
      · exact certa_of_none rfl rfl
      · rename_i vivo
        refine ⟨fun par here => ?_, by simp [ChamadaDeCodigo.trocando]⟩
        obtain rfl := Option.some.inj here
        exact attempts_of_busca vivo
  | descartar token => exact certa_of_none rfl rfl
  | comparar token =>
      simp only [ChamadaDeCodigo.avancarVerificacao]
      split <;> exact certa_of_none rfl rfl
  | contar token =>
      simp only [ChamadaDeCodigo.avancarVerificacao, ChamadaDeCodigo.escrever]
      split <;> exact certa_of_none rfl rfl
  | entregar token =>
      simp only [ChamadaDeCodigo.avancarVerificacao, ChamadaDeCodigo.escrever]
      split <;> exact certa_of_none rfl rfl
  | fim resposta => exact certa_of_none rfl rfl

theorem certa_avancarTroca (emOrdem : db.EmOrdem) (fase : FaseDeTroca) :
    (ChamadaDeCodigo.resetPassword ticket password
      (ChamadaDeCodigo.avancarTroca cripto db ticket password agora fase).2).Certa
        (ChamadaDeCodigo.avancarTroca cripto db ticket password agora fase).1 := by
  cases fase with
  | buscar =>
      simp only [ChamadaDeCodigo.avancarTroca]
      split
      · exact certa_of_none rfl rfl
      rename_i token found
      dsimp only
      split
      · exact certa_of_none rfl rfl
      · refine ⟨by simp [ChamadaDeCodigo.comparando], fun lido here => ?_⟩
        obtain rfl := Option.some.inj here
        obtain ⟨mem, reset, _⟩ := doTicket_mem found
        refine ⟨emOrdem.lt_next token mem, fun row row_mem same => ?_⟩
        obtain rfl := emOrdem.eq_of_key_eq row_mem mem same
        exact ⟨rfl, reset⟩
  | descartar token => exact certa_of_none rfl rfl
  | gravar token =>
      simp only [ChamadaDeCodigo.avancarTroca, ChamadaDeCodigo.escrever]
      split <;> exact certa_of_none rfl rfl
  | fim resposta => exact certa_of_none rfl rfl

theorem certa_avancarVinculo (fase : FaseDeVinculo) :
    (ChamadaDeCodigo.confirmarVinculo userId codigo
      (ChamadaDeCodigo.avancarVinculo cripto db userId codigo agora fase).2).Certa depois := by
  cases fase with
  | buscar =>
      simp only [ChamadaDeCodigo.avancarVinculo]
      split
      · exact certa_of_none rfl rfl
      dsimp only
      split
      · exact certa_of_none rfl rfl
      · rename_i vivo
        refine ⟨fun par here => ?_, by simp [ChamadaDeCodigo.trocando]⟩
        obtain rfl := Option.some.inj here
        exact attempts_of_busca vivo
  | descartar => exact certa_of_none rfl rfl
  | comparar token =>
      simp only [ChamadaDeCodigo.avancarVinculo]
      split <;> exact certa_of_none rfl rfl
  | contar token =>
      simp only [ChamadaDeCodigo.avancarVinculo, ChamadaDeCodigo.escrever]
      split <;> exact certa_of_none rfl rfl
  | conferir token =>
      simp only [ChamadaDeCodigo.avancarVinculo]
      split
      · exact certa_of_none rfl rfl
      · split <;> exact certa_of_none rfl rfl
  | criar conta =>
      simp only [ChamadaDeCodigo.avancarVinculo, ChamadaDeCodigo.escrever]
      split <;> exact certa_of_none rfl rfl
  | limpar => exact certa_of_none rfl rfl
  | fim resposta => exact certa_of_none rfl rfl

/-- A call relies on what it has just read. -/
theorem certa_avancar (emOrdem : db.EmOrdem) : ∀ c : ChamadaDeCodigo,
    (c.avancar cripto db agora).2.Certa (c.avancar cripto db agora).1
  | .requestReset _ _ _ => certa_of_none rfl rfl
  | .verifyCode _ _ _ fase => certa_avancarVerificacao fase
  | .resetPassword _ _ fase => certa_avancarTroca emOrdem fase
  | .confirmarVinculo _ _ fase => certa_avancarVinculo fase

/-- A ticket that changes the password takes the codes of its person away. -/
theorem trocou_avancar {id : Id} (trocou : c.trocou (c.avancar cripto db agora).2 = some id) :
    ∃ token, c.trocando = some token ∧ token.id = id ∧
      (c.avancar cripto db agora).1.tokens =
      (db.apagarTokens token.userId tokenTypePasswordReset).tokens := by
  cases c with
  | requestReset => cases trocou
  | verifyCode => cases trocou
  | confirmarVinculo => cases trocou
  | resetPassword ticket password fase =>
      cases fase with
      | buscar => cases trocou
      | descartar token => cases trocou
      | fim resposta => cases trocou
      | gravar token =>
          simp only [ChamadaDeCodigo.avancar, ChamadaDeCodigo.avancarTroca,
            ChamadaDeCodigo.escrever] at trocou ⊢
          cases saved : db.gravarSenha token.userId (cripto.hash password) agora with
          | error e =>
              rw [saved] at trocou
              cases trocou
          | ok depois =>
              rw [saved] at trocou
              exact ⟨token, rfl, Option.some.inj trocou, (gravarSenha_ok saved).1⟩

theorem errando_some {token : UserToken} (errando : c.errando cripto = some token) :
    ∃ code, c.comparando = some (token, code) := by
  simp only [ChamadaDeCodigo.errando, Option.map_eq_some_iff, Option.filter_eq_some_iff] at errando
  obtain ⟨⟨_, code⟩, ⟨comparando, _⟩, rfl⟩ := errando
  exact ⟨code, comparando⟩

end Chamadas

/-! ### Runs -/

/-- What a run keeps: the keys, what the calls rely on, the counts, and that the row of a used
ticket is gone. -/
structure EmContagem (sr : AcessoEmCurso × RegistroDeCodigos) : Prop where
  emOrdem : sr.1.db.EmOrdem
  certas : ∀ c ∈ sr.1.chamadas, c.Certa sr.1.db
  erros : ∀ id, sr.2.errados.count id ≤ maxCodeAttempts
  usados : ∀ id ∈ sr.2.trocas, id < sr.1.db.painel.nextId ∧ ∀ row ∈ sr.1.db.tokens, row.id ≠ id
  umaVez : sr.2.trocas.Nodup

section Corridas

variable {s : AcessoEmCurso} {r : RegistroDeCodigos} {cripto : Cripto} {depois : Acesso} {k : Nat}
  {agora : Instant} {c : ChamadaDeCodigo}

/-- A used ticket stays used. -/
theorem usados_sucede (emContagem : EmContagem (s, r)) (sucede : Sucede s.db depois) :
    ∀ id ∈ r.trocas, id < depois.painel.nextId ∧ ∀ row ∈ depois.tokens, row.id ≠ id := by
  intro id used
  obtain ⟨given, gone⟩ := emContagem.usados id used
  refine ⟨given.trans_le sucede.next, fun row mem named => ?_⟩
  rcases sucede.vem row mem with new | ⟨old, old_mem, same, _, _⟩
  · exact absurd (named ▸ new) (not_le.mpr given)
  · exact gone old old_mem (same.trans named)

theorem emContagem_iniciar (emContagem : EmContagem (s, r)) (c : ChamadaDeCodigo)
    (comparando : c.comparando = none) (trocando : c.trocando = none) :
    EmContagem (s.iniciar c, r) := by
  refine ⟨emContagem.emOrdem, fun d mem => ?_, emContagem.erros, emContagem.usados,
    emContagem.umaVez⟩
  rcases List.mem_append.mp mem with old | new
  · exact emContagem.certas d old
  · obtain rfl := List.mem_singleton.mp new
    exact certa_of_none comparando trocando

/-- A wrong code counted with attempts left. -/
theorem erros_avancar (emContagem : EmContagem (s, r)) (found : s.chamadas[k]? = some c)
    (guarda : ∀ token ∈ c.errando cripto, r.errados.count token.id ≤ token.attempts) (id : Id) :
    (r.errados ++ ((c.errando cripto).map UserToken.id).toList).count id ≤ maxCodeAttempts := by
  cases errando : c.errando cripto with
  | none => simpa using emContagem.erros id
  | some token =>
      obtain ⟨code, comparando⟩ := errando_some errando
      have left : token.attempts < maxCodeAttempts :=
        (emContagem.certas c (List.mem_of_getElem? found)).1 (token, code) comparando
      have counted := guarda token errando
      rw [List.count_append]
      by_cases here : token.id = id
      · subst here
        simpa using Nat.succ_le_of_lt (counted.trans_lt left)
      · simpa [here] using emContagem.erros id

theorem emContagem_avancar (emContagem : EmContagem (s, r)) (found : s.chamadas[k]? = some c)
    (guarda : ContagemEmDia cripto (s, r) (.avancar k agora)) :
    EmContagem (withHistory (AcessoEmCurso.step cripto) (RegistroDeCodigos.registrar cripto) (s, r)
      (.avancar k agora)) := by
  obtain ⟨conta, resta⟩ := guarda c found
  have sucede : Sucede s.db (c.avancar cripto s.db agora).1 := sucede_avancar emContagem.emOrdem c
  have certa := emContagem.certas c (List.mem_of_getElem? found)
  simp only [withHistory, AcessoEmCurso.step, RegistroDeCodigos.registrar, found]
  refine ⟨sucede.chaves, fun d mem => ?_, erros_avancar emContagem found conta, ?_, ?_⟩
  · rcases List.mem_or_eq_of_mem_set mem with old | rfl
    · exact (emContagem.certas d old).sucede sucede
    · exact certa_avancar emContagem.emOrdem c
  · intro id mem
    rcases List.mem_append.mp mem with old | new
    · exact usados_sucede emContagem sucede id old
    · obtain ⟨token, trocando, rfl, tokens⟩ := trocou_avancar (Option.mem_toList.mp new)
      obtain ⟨given, row_same⟩ := certa.2 token trocando
      refine ⟨given.trans_le sucede.next, fun row row_mem named => ?_⟩
      have kept : row ∈ (s.db.apagarTokens token.userId tokenTypePasswordReset).tokens :=
        tokens ▸ row_mem
      obtain ⟨before, other⟩ := List.mem_filter.mp kept
      obtain ⟨same_user, reset⟩ := row_same row before named
      simp [same_user, reset] at other
  · cases trocou : c.trocou (c.avancar cripto s.db agora).2 with
    | none => simpa using emContagem.umaVez
    | some id =>
        obtain ⟨token, trocando, rfl, _⟩ := trocou_avancar trocou
        obtain ⟨row, row_mem, named⟩ := resta token trocando
        refine List.nodup_append.mpr ⟨emContagem.umaVez, by simp, fun used mem _ new same => ?_⟩
        obtain rfl := List.mem_singleton.mp new
        exact (emContagem.usados used mem).2 row row_mem (named.trans same.symm)

theorem emContagem_step (sr : AcessoEmCurso × RegistroDeCodigos) (acao : AcessoEmCurso.Acao)
    (emContagem : EmContagem sr) (guarda : ContagemEmDia cripto sr acao) :
    EmContagem (withHistory (AcessoEmCurso.step cripto) (RegistroDeCodigos.registrar cripto) sr
      acao) := by
  obtain ⟨s, r⟩ := sr
  cases acao with
  | requestReset document codigo => exact emContagem_iniciar emContagem _ rfl rfl
  | verifyCode document code ticket => exact emContagem_iniciar emContagem _ rfl rfl
  | resetPassword ticket password => exact emContagem_iniciar emContagem _ rfl rfl
  | confirmarVinculo userId codigo => exact emContagem_iniciar emContagem _ rfl rfl
  | vincular userId conta codigo agora =>
      have sucede : Sucede s.db (s.db.novoToken userId tokenTypeGoogleLink (some conta)
          (cripto.hash codigo) (agora + validadeDoCodigo) agora) :=
            sucede_novoToken emContagem.emOrdem
      exact ⟨sucede.chaves, fun c mem => (emContagem.certas c mem).sucede sucede, emContagem.erros,
        usados_sucede emContagem sucede, emContagem.umaVez⟩
  | avancar k agora =>
      cases found : s.chamadas[k]? with
      | none =>
          simpa [withHistory, AcessoEmCurso.step, RegistroDeCodigos.registrar,
            found] using emContagem
      | some c => exact emContagem_avancar emContagem found guarda

end Corridas

/-- In every interleaving of the statements of requests, verifications, resets and confirmations
whose steps count on what is in the table, the codes and the tickets are counted. -/
theorem codigosContados_run (cripto : Cripto) (db : Acesso) (emOrdem : db.EmOrdem)
    (acoes : List AcessoEmCurso.Acao)
    (guarda : EachStep (withHistory (AcessoEmCurso.step cripto)
      (RegistroDeCodigos.registrar cripto)) (ContagemEmDia cripto) (⟨db, []⟩, ⟨[], []⟩) acoes) :
    Always (withHistory (AcessoEmCurso.step cripto) (RegistroDeCodigos.registrar cripto))
      CodigosContados (⟨db, []⟩, ⟨[], []⟩) acoes := by
  have start : EmContagem (⟨db, []⟩, ⟨[], []⟩) :=
    ⟨emOrdem, fun _ absent => absurd absent List.not_mem_nil, fun _ => Nat.zero_le _,
      fun _ absent => absurd absent List.not_mem_nil, List.nodup_nil⟩
  refine (always_of_eachStep emContagem_step start guarda).mono fun sr emContagem id => ?_
  exact ⟨emContagem.erros id, List.nodup_iff_count_le_one.mp emContagem.umaVez id⟩

/-! ### Six wrong codes at once -/

namespace SeisTentativas

/-- Person 7 was sent the code "12345678". -/
def acesso : Acesso :=
  ⟨SedeComLider.painel, fun _ => none,
    [⟨50, 7, tokenTypePasswordReset, none, "12345678", none, 0, codeTtl, 0⟩], [], []⟩

theorem emOrdem : acesso.EmOrdem := ⟨by decide, by decide⟩

/-- Six calls look the code up before any of them compares. -/
def acoes : List AcessoEmCurso.Acao :=
  List.replicate 6 (.verifyCode "1" "00000000" "ticket") ++
    (List.range 6).map (fun k => .avancar k 1) ++ (List.range 6).map (fun k => .avancar k 2) ++
      (List.range 6).map fun k => .avancar k 3

/-- Two wrong codes, one after the other. -/
def umaPorVez : List AcessoEmCurso.Acao :=
  [.verifyCode "1" "00000000" "ticket", .avancar 0 1, .avancar 0 1, .avancar 0 1, .avancar 0 1,
    .verifyCode "1" "11111111" "ticket", .avancar 1 2, .avancar 1 2, .avancar 1 2, .avancar 1 2]

end SeisTentativas

theorem codigosContados_run_umaPorVez :
    Always (withHistory (AcessoEmCurso.step CodigoRenovado.cripto)
      (RegistroDeCodigos.registrar CodigoRenovado.cripto)) CodigosContados
        (⟨SeisTentativas.acesso, []⟩, ⟨[], []⟩) SeisTentativas.umaPorVez :=
  codigosContados_run CodigoRenovado.cripto SeisTentativas.acesso SeisTentativas.emOrdem
    SeisTentativas.umaPorVez (by decide +kernel)

/-- All six are compared: each call counts from the attempts it read. -/
theorem not_codigosContados_seis :
    ¬ Always (withHistory (AcessoEmCurso.step CodigoRenovado.cripto)
      (RegistroDeCodigos.registrar CodigoRenovado.cripto)) CodigosContados
        (⟨SeisTentativas.acesso, []⟩, ⟨[], []⟩) SeisTentativas.acoes := by
  intro contados
  exact absurd (contados.last 50).1 (by decide +kernel)

end IccvBackend
