/-
Module: IccvBackend.Proofs.GoogleLinks
Purpose: Whom a Google account lets in: where its link comes from, and whose session it opens.
Trusted boundary: none
Main exports: EnvioDeCodigo, OrigemDoVinculo, PortaCerta, Acesso.UmParaUm, PortasEmDia,
  passo_stepGoogle, portaCerta_run
-/
import IccvBackend.Auth.Google
import IccvBackend.Proofs.CodeLifetime
import IccvBackend.Proofs.Documents

namespace IccvBackend

open Lib

/-! ### The law -/

/-- A code that was mailed: to whom, for which Google account, and whether the password of the
person had come with the request. -/
structure EnvioDeCodigo where
  userId : Id
  subject : String
  codigo : String
  senhaConferida : Bool
deriving Repr, DecidableEq

namespace Acesso

variable (db : Acesso)

/-- Who is linked to which Google account. -/
def portas : List (Id × String) :=
  db.identities.map fun identity => (identity.userId, identity.subject)

/-- A person has one Google account at most, and a Google account one person. -/
def UmParaUm : Prop := (db.portas.map Prod.fst).Nodup ∧ (db.portas.map Prod.snd).Nodup

/-- The text that came is the password of the person. -/
def senhaConfere (cripto : Cripto) (userId : Id) (senhaAtual : Option String) : Bool :=
  (db.painel.pessoa? userId).any fun user =>
    senhaAtual.any fun senha => cripto.compara senha user.password

/-- The code that a step mails. -/
def enviados (cripto : Cripto) (clientId : String) : AcaoGoogle → List EnvioDeCodigo
  | .vincular userId payload senhaAtual codigo agora =>
      match (db.vincular cripto clientId userId payload senhaAtual codigo agora).2 with
      | .ok conta => [⟨userId, conta.sub, codigo, db.senhaConfere cripto userId senhaAtual⟩]
      | .error _ => []
  | _ => []

end Acesso

/-- The codes mailed so far. -/
def registrarEnvio (cripto : Cripto) (clientId : String) (envios : List EnvioDeCodigo) (db : Acesso)
    (acao : AcaoGoogle) (_ : Acesso) : List EnvioDeCodigo :=
  envios ++ db.enviados cripto clientId acao

/-- Where a link that a step makes comes from: the code mailed to the person for that Google
account, after the password; or the verified e-mail, that Google answers for, of one person only,
who had no Google account. -/
inductive OrigemDoVinculo (cripto : Cripto) (clientId : String) (envios : List EnvioDeCodigo)
    (db : Acesso) (userId : Id) (subject : String) : AcaoGoogle → Prop where
  | peloCodigo {codigo : String} {agora : Instant} (envio : EnvioDeCodigo)
      (enviado : envio ∈ envios) (dele : envio.userId = userId) (daConta : envio.subject = subject)
      (senha : envio.senhaConferida) (confere : cripto.compara codigo (cripto.hash envio.codigo)) :
      OrigemDoVinculo cripto clientId envios db userId subject
        (.confirmarVinculo userId codigo agora)
  | peloEmail {payload : Option TokenPayload} {agora : Instant} (conta : ContaGoogle)
      (user : Pessoa) (conferida : conferirTokenDoGoogle clientId payload = .ok conta)
      (daConta : conta.sub = subject)
      (verificado : conta.emailVerificado) (autoridade : conta.googleEhAutoridade)
      (unico : db.painel.pessoas.filter (fun p => p.email = conta.email) = [user])
      (dele : user.id = userId) (semGoogle : db.doCadastro userId = none) :
      OrigemDoVinculo cripto clientId envios db userId subject (.entrar payload agora)

/-- Every link that a step makes has its origin, and a session is of the person linked to the Google
account that asks for it. -/
structure PortaCerta (cripto : Cripto) (clientId : String) (sr : Acesso × List EnvioDeCodigo)
    (acao : AcaoGoogle) : Prop where
  origem : ∀ userId subject, (userId, subject) ∈ (sr.1.stepGoogle cripto clientId acao).portas →
    (userId, subject) ∉ sr.1.portas → OrigemDoVinculo cripto clientId sr.2 sr.1 userId subject acao
  sessao : ∀ payload agora sessao, acao = .entrar payload agora →
    (sr.1.entrar clientId payload agora).2 = .ok sessao →
      ∃ conta, conferirTokenDoGoogle clientId payload = .ok conta ∧
        (sessao.sub, conta.sub) ∈ (sr.1.stepGoogle cripto clientId acao).portas

/-! ### The invariant -/

/-- What a confirmation reads of a code: whose it is, what for, the Google account and the
digest. -/
def Acesso.codigos (db : Acesso) : List (Id × Nat × Option ContaEscolhida × String) :=
  db.tokens.map fun token => (token.userId, token.type, token.payload, token.codeHash)

/-- The unique indexes, and each pending code is one that was mailed after the password. -/
structure PortasEmDia (cripto : Cripto) (sr : Acesso × List EnvioDeCodigo) : Prop where
  umParaUm : sr.1.UmParaUm
  cpf : sr.1.painel.CpfUnico
  pendentes : ∀ userId conta hash, (userId, tokenTypeGoogleLink, some conta, hash) ∈ sr.1.codigos →
    ∃ envio ∈ sr.2, envio.userId = userId ∧ envio.subject = conta.subject ∧
      hash = cripto.hash envio.codigo ∧ envio.senhaConferida

/-- A change that makes no link and no code. -/
structure Conserva (db depois : Acesso) : Prop where
  portas : depois.portas.Sublist db.portas
  codigos : depois.codigos ⊆ db.codigos
  cpf : db.painel.CpfUnico → depois.painel.CpfUnico

/-- What a step may do: keep, link one person, or mail one code. -/
inductive PassoDoGoogle (cripto : Cripto) (clientId : String) (envios : List EnvioDeCodigo)
    (db : Acesso) (acao : AcaoGoogle) (depois : Acesso) : Prop where
  | conserva (segue : Conserva db depois)
  | vincula {userId : Id} {conta : ContaEscolhida} {agora : Instant} {meio : Acesso}
      {vinculo : UserIdentity} (criado : db.criarVinculo userId conta agora = .ok (meio, vinculo))
      (segue : Conserva meio depois)
      (origem : OrigemDoVinculo cripto clientId envios db userId conta.subject acao)
  | envia {envio : EnvioDeCodigo} {email : String} {expiresAt agora : Instant} {meio : Acesso}
      (segue : Conserva db meio) (enviado : envio ∈ db.enviados cripto clientId acao)
      (senha : envio.senhaConferida)
      (escrito : depois = meio.novoToken envio.userId tokenTypeGoogleLink
        (some ⟨envio.subject, email⟩) (cripto.hash envio.codigo) expiresAt agora)

/-! ### Changes that keep -/

section Mudancas

variable {db meio depois : Acesso} {userId id : Id} {type : Nat} {token : UserToken}
  {conta : ContaEscolhida} {google : ContaGoogle} {vinculo : UserIdentity} {cpf : String}
  {agora : Instant}

theorem Conserva.refl (db : Acesso) : Conserva db db :=
  ⟨List.Sublist.refl _, List.Subset.refl _, id⟩

theorem Conserva.trans (first : Conserva db meio) (second : Conserva meio depois) :
    Conserva db depois :=
  ⟨second.portas.trans first.portas, fun _ mem => first.codigos (second.codigos mem),
    fun cpf => second.cpf (first.cpf cpf)⟩

/-- Codes erased, and nothing else that a door reads. -/
theorem conserva_of_tokens (portas : depois.portas = db.portas)
    (tokens : depois.tokens.Sublist db.tokens)
    (pessoas : depois.painel.pessoas = db.painel.pessoas) :
    Conserva db depois := by
  refine ⟨portas ▸ List.Sublist.refl _, (tokens.map _).subset, fun cpf => ?_⟩
  unfold Painel.CpfUnico
  rw [pessoas]
  exact cpf

theorem conserva_apagarTokens (db : Acesso) (userId : Id) (type : Nat) :
    Conserva db (db.apagarTokens userId type) :=
  conserva_of_tokens rfl List.filter_sublist rfl

theorem conserva_comErros (db : Acesso) (id : Id) (attempts : Nat) :
    Conserva db
      { db with tokens := updateKey UserToken.id id (Acesso.comErros attempts) db.tokens } := by
  have codigos : (updateKey UserToken.id id (Acesso.comErros attempts) db.tokens).map
      (fun token => (token.userId, token.type, token.payload, token.codeHash)) = db.codigos :=
    map_updateKey fun _ _ _ => rfl
  exact ⟨List.Sublist.refl _, (List.Perm.of_eq codigos).subset, fun cpf => cpf⟩

theorem conserva_abrirSessao (db : Acesso) (google : ContaGoogle) (cpf : String) (agora : Instant) :
    Conserva db (db.abrirSessao google cpf agora).1 := by
  unfold Acesso.abrirSessao
  split
  · exact .refl db
  split
  · exact conserva_of_tokens rfl (List.Sublist.refl _) rfl
  · exact conserva_of_tokens rfl (List.Sublist.refl _) rfl

/-- Entering refreshes the e-mail of the link only. -/
theorem conserva_entrarPeloVinculo (db : Acesso) (google : ContaGoogle) (vinculo : UserIdentity)
    (agora : Instant) :
    Conserva db (db.entrarPeloVinculo google vinculo agora).1 ∧
      (db.entrarPeloVinculo google vinculo agora).1.portas = db.portas := by
  unfold Acesso.entrarPeloVinculo
  split
  · exact ⟨.refl db, rfl⟩
  rename_i dono _
  have lembrado : (updateKey UserIdentity.id vinculo.id
      (fun identity => { identity with email := google.email, lastUsedAt := some agora })
      db.identities).map (fun identity => (identity.userId, identity.subject)) = db.portas :=
    map_updateKey fun _ _ _ => rfl
  have aberta : ∀ antes : Acesso,
      (antes.abrirSessao google dono.cpf agora).1.portas = antes.portas := by
    intro antes
    unfold Acesso.abrirSessao
    split
    · rfl
    · split <;> rfl
  refine ⟨Conserva.trans ?_ (conserva_abrirSessao _ google dono.cpf agora),
    (aberta _).trans lembrado⟩
  exact conserva_of_tokens lembrado (List.Sublist.refl _) rfl

theorem conserva_desvincular (ok : db.desvincular userId = .ok depois) : Conserva db depois := by
  simp only [Acesso.desvincular, bind_eq_ok_iff, pure_eq_ok_iff] at ok
  obtain ⟨_, _, rfl⟩ := ok
  exact ⟨List.filter_sublist.map _, List.Subset.refl _, fun cpf => cpf⟩

theorem conserva_trocarSenha {senha : String}
    (ok : db.trocarSenha userId senha agora = .ok depois) :
    Conserva db depois := by
  simp only [Acesso.trocarSenha, bind_eq_ok_iff, pure_eq_ok_iff] at ok
  obtain ⟨_, _, rfl⟩ := ok
  exact ⟨List.Sublist.refl _, List.Subset.refl _,
    fun cpf => cpfUnico_map cpf (fun p => by split <;> exact ⟨rfl, rfl⟩) rfl⟩

/-! ### A new link -/

theorem daConta_none {subject : String} :
    db.daConta subject = none ↔ ∀ porta ∈ db.portas, porta.2 ≠ subject := by
  simp [Acesso.daConta, Acesso.portas]

theorem doCadastro_none : db.doCadastro userId = none ↔ ∀ porta ∈ db.portas, porta.1 ≠ userId := by
  simp [Acesso.doCadastro, Acesso.portas]

theorem criarVinculo_ok (ok : db.criarVinculo userId conta agora = .ok (meio, vinculo)) :
    (∀ porta ∈ db.portas, porta.1 ≠ userId) ∧ (∀ porta ∈ db.portas, porta.2 ≠ conta.subject) ∧
      meio.portas = db.portas ++ [(userId, conta.subject)] ∧ meio.tokens = db.tokens ∧
      meio.painel.pessoas = db.painel.pessoas ∧ vinculo.userId = userId := by
  simp only [Acesso.criarVinculo, bind_eq_ok_iff, failIf_eq_ok_iff, exists_const, pure_eq_ok_iff,
    Prod.mk.injEq, Bool.or_eq_true, not_or, Bool.not_eq_true, Option.isSome_eq_false_iff,
    Option.isNone_iff_eq_none] at ok
  obtain ⟨⟨semConta, semCadastro⟩, rfl, rfl⟩ := ok
  refine ⟨doCadastro_none.mp semCadastro, daConta_none.mp semConta, ?_, rfl, rfl, rfl⟩
  simp [Acesso.portas]

/-- A link between a person and a Google account that had none. -/
theorem umParaUm_criarVinculo (umParaUm : db.UmParaUm)
    (ok : db.criarVinculo userId conta agora = .ok (meio, vinculo)) : meio.UmParaUm := by
  obtain ⟨semCadastro, semConta, portas, _⟩ := criarVinculo_ok ok
  unfold Acesso.UmParaUm
  rw [portas, List.map_append, List.map_append, List.nodup_append, List.nodup_append]
  refine ⟨⟨umParaUm.1, by simp, ?_⟩, umParaUm.2, by simp, ?_⟩
  · rintro k mem _ new rfl
    obtain ⟨porta, porta_mem, rfl⟩ := List.mem_map.mp mem
    exact semCadastro porta porta_mem (List.mem_singleton.mp new)
  · rintro k mem _ new rfl
    obtain ⟨porta, porta_mem, rfl⟩ := List.mem_map.mp mem
    exact semConta porta porta_mem (List.mem_singleton.mp new)

theorem umParaUm_of_sublist (umParaUm : db.UmParaUm) (sub : depois.portas.Sublist db.portas) :
    depois.UmParaUm :=
  ⟨umParaUm.1.sublist (sub.map _), umParaUm.2.sublist (sub.map _)⟩

end Mudancas

/-! ### Entering -/

section Entrar

variable {cripto : Cripto} {clientId : String} {envios : List EnvioDeCodigo} {db depois : Acesso}
  {conta : ContaGoogle} {vinculo : UserIdentity} {payload : Option TokenPayload} {sessao : Sessao}
  {cpf : String} {agora : Instant}

/-- The ends of the link by e-mail. -/
inductive FimPeloEmail (db : Acesso) (conta : ContaGoogle) (agora : Instant) :
    Acesso × Except Failure UserIdentity → Prop where
  | recusado {depois : Acesso} (e : Failure) (segue : Conserva db depois) :
      FimPeloEmail db conta agora (depois, .error e)
  | vinculado {user : Pessoa} {meio : Acesso} {vinculo : UserIdentity}
      (verificado : conta.emailVerificado) (autoridade : conta.googleEhAutoridade)
      (unico : db.painel.pessoas.filter (fun p => p.email = conta.email) = [user])
      (semGoogle : db.doCadastro user.id = none)
      (criado : db.criarVinculo user.id ⟨conta.sub, conta.email⟩ agora = .ok (meio, vinculo)) :
      FimPeloEmail db conta agora (meio, .ok vinculo)

/-- A refusal records the attempt only. -/
theorem recusar_ends (db : Acesso) (conta : ContaGoogle) (userId : Option Id) (resposta : Failure)
    (agora : Instant) : FimPeloEmail db conta agora (db.recusar conta userId resposta agora) :=
  .recusado resposta (conserva_of_tokens rfl (List.Sublist.refl _) rfl)

/-- Two rows are enough to know that there is one only. -/
theorem eq_singleton_of_take_two {α : Type} {rows : List α} {row : α} (two : rows.take 2 = [row]) :
    rows = [row] := by
  rcases rows with _ | ⟨first, _ | ⟨second, rest⟩⟩
  · cases two
  · exact two
  · cases two

theorem vincularPeloEmail_ends (db : Acesso) (conta : ContaGoogle) (agora : Instant) :
    FimPeloEmail db conta agora (db.vincularPeloEmail conta agora) := by
  unfold Acesso.vincularPeloEmail
  split
  · exact recusar_ends db conta _ _ agora
  rename_i verificado
  split
  · exact recusar_ends db conta _ _ agora
  rename_i user outros donos
  split
  · exact recusar_ends db conta _ _ agora
  rename_i autoridade
  split
  · exact recusar_ends db conta _ _ agora
  rename_i sozinho
  split
  · exact recusar_ends db conta _ _ agora
  rename_i semGoogle
  obtain rfl : outros = [] := by simpa using sozinho
  split
  · rename_i criado
    exact .vinculado (by simpa using verificado) (by simpa using autoridade)
      (eq_singleton_of_take_two donos) (by simpa using semGoogle) criado
  · exact .recusado _ (.refl db)

theorem passo_entrar (payload : Option TokenPayload) (agora : Instant) :
    PassoDoGoogle cripto clientId envios db (.entrar payload agora)
      (db.entrar clientId payload agora).1 := by
  unfold Acesso.entrar
  split
  · exact .conserva (.refl db)
  rename_i conta conferida
  split
  · exact .conserva (conserva_entrarPeloVinculo db conta _ agora).1
  have ends := vincularPeloEmail_ends db conta agora
  revert ends
  generalize db.vincularPeloEmail conta agora = fim
  rintro (⟨e, segue⟩ | ⟨verificado, autoridade, unico, semGoogle, criado⟩)
  · exact .conserva segue
  · exact .vincula criado (conserva_entrarPeloVinculo _ conta _ agora).1
      (.peloEmail conta _ conferida rfl verificado autoridade unico rfl semGoogle)

/-! ### The session -/

/-- The session is of the person found by the document. -/
theorem abrirSessao_ok (ok : (db.abrirSessao conta cpf agora).2 = .ok sessao) :
    ∃ user ∈ db.painel.pessoas, user.cpf = cpf ∧ sessao.sub = user.id := by
  unfold Acesso.abrirSessao at ok
  split at ok
  · cases ok
  rename_i user found
  split at ok
  · cases ok
  obtain rfl := Except.ok.inj ok
  unfold Acesso.findByDocument at found
  split at found
  · cases found
  · exact ⟨user, List.mem_of_find?_eq_some found, by simpa using List.find?_some found, rfl⟩

theorem entrarPeloVinculo_ok (unico : db.painel.CpfUnico)
    (ok : (db.entrarPeloVinculo conta vinculo agora).2 = .ok sessao) :
    sessao.sub = vinculo.userId := by
  unfold Acesso.entrarPeloVinculo at ok
  split at ok
  · cases ok
  rename_i dono found
  obtain ⟨user, mem, cpf, aberta⟩ := abrirSessao_ok ok
  rw [aberta]
  -- the document leads back to the person of the link
  exact (unico user mem dono (lookup_mem found) cpf).trans (lookup_key found)

/-- A session is of the person that the link of the Google account names. -/
theorem entrar_ok (unico : db.painel.CpfUnico)
    (ok : (db.entrar clientId payload agora).2 = .ok sessao) :
    ∃ conta, conferirTokenDoGoogle clientId payload = .ok conta ∧
      (sessao.sub, conta.sub) ∈ (db.entrar clientId payload agora).1.portas := by
  unfold Acesso.entrar at ok ⊢
  split at ok
  · cases ok
  rename_i conta conferida
  refine ⟨conta, conferida, ?_⟩
  split at ok
  · rename_i vinculo found
    rw [(conserva_entrarPeloVinculo db conta vinculo agora).2, entrarPeloVinculo_ok unico ok]
    have daConta : vinculo.subject = conta.sub := by simpa using List.find?_some found
    exact List.mem_map.mpr ⟨vinculo, List.mem_of_find?_eq_some found, by rw [daConta]⟩
  · have ends := vincularPeloEmail_ends db conta agora
    revert ok ends
    generalize db.vincularPeloEmail conta agora = fim
    rintro ok (⟨e, _⟩ | @⟨user, meio, vinculo, _, _, _, _, criado⟩)
    · cases ok
    obtain ⟨_, _, portas, _, pessoas, dele⟩ := criarVinculo_ok criado
    have unico : meio.painel.CpfUnico := by
      unfold Painel.CpfUnico
      rw [pessoas]
      exact unico
    dsimp only
    rw [(conserva_entrarPeloVinculo meio conta vinculo agora).2, entrarPeloVinculo_ok unico ok,
      portas, dele]
    exact List.mem_append_right _ (List.mem_singleton.mpr rfl)

end Entrar

/-! ### Linking in two steps -/

section Vincular

variable {cripto : Cripto} {clientId : String} {envios : List EnvioDeCodigo} {db depois : Acesso}
  {userId : Id} {token : UserToken} {payload : Option TokenPayload} {senhaAtual : Option String}
  {codigo : String} {agora : Instant}

/-- The password is accepted only when it came and is the one of the person. -/
theorem conferirSenhaAtual_ok {compara : String → String → Bool} {registro : Option ErrosDeSenha}
    {hash : String} (ok : (conferirSenhaAtual compara agora registro senhaAtual hash).2 = .ok ()) :
    senhaAtual.any fun senha => compara senha hash := by
  unfold conferirSenhaAtual at ok
  split at ok
  · cases ok
  split at ok
  · rename_i certa
    cases senhaAtual with
    | none => cases certa
    | some senha =>
        simp only [Option.any_some, Bool.and_eq_true] at certa ⊢
        exact certa.2
  · cases ok

/-- The ends of the request of a link. -/
inductive FimDeVincular (db : Acesso) (cripto : Cripto) (userId : Id) (senhaAtual : Option String)
    (codigo : String) (agora : Instant) : Acesso × Except Failure ContaGoogle → Prop where
  | recusado {depois : Acesso} (e : Failure) (segue : Conserva db depois) :
      FimDeVincular db cripto userId senhaAtual codigo agora (depois, .error e)
  | enviado {meio : Acesso} (conta : ContaGoogle) (segue : Conserva db meio)
      (senha : db.senhaConfere cripto userId senhaAtual) :
      FimDeVincular db cripto userId senhaAtual codigo agora
        (meio.novoToken userId tokenTypeGoogleLink (some ⟨conta.sub, conta.email⟩)
          (cripto.hash codigo) (agora + validadeDoCodigo) agora, .ok conta)

theorem vincular_ends (db : Acesso) (cripto : Cripto) (clientId : String) (userId : Id)
    (payload : Option TokenPayload) (senhaAtual : Option String) (codigo : String)
    (agora : Instant) :
    FimDeVincular db cripto userId senhaAtual codigo agora
      (db.vincular cripto clientId userId payload senhaAtual codigo agora) := by
  unfold Acesso.vincular
  split
  · exact .recusado _ (.refl db)
  rename_i user found
  dsimp only
  split
  · exact .recusado _ (conserva_of_tokens rfl (List.Sublist.refl _) rfl)
  rename_i aceita
  split
  · exact .recusado _ (conserva_of_tokens rfl (List.Sublist.refl _) rfl)
  · refine .enviado _ (conserva_of_tokens rfl (List.Sublist.refl _) rfl) ?_
    rw [Acesso.senhaConfere, found]
    exact conferirSenhaAtual_ok aceita

theorem passo_vincular (userId : Id) (payload : Option TokenPayload) (senhaAtual : Option String)
    (codigo : String) (agora : Instant) :
    PassoDoGoogle cripto clientId envios db (.vincular userId payload senhaAtual codigo agora)
      (db.vincular cripto clientId userId payload senhaAtual codigo agora).1 := by
  have ends := vincular_ends db cripto clientId userId payload senhaAtual codigo agora
  cases answer : db.vincular cripto clientId userId payload senhaAtual codigo agora with
  | mk depois resposta =>
      rw [answer] at ends
      cases ends with
      | recusado e segue => exact .conserva segue
      | enviado conta segue senha =>
          have enviado : ⟨userId, conta.sub, codigo, db.senhaConfere cripto userId senhaAtual⟩ ∈
              db.enviados cripto clientId (.vincular userId payload senhaAtual codigo agora) := by
            simp [Acesso.enviados, answer]
          exact .envia segue enviado senha rfl

theorem conserva_contarErro (ok : db.contarErroDoVinculo userId token = .ok depois) :
    Conserva db depois := by
  unfold Acesso.contarErroDoVinculo at ok
  dsimp only at ok
  split at ok
  · obtain rfl := Except.ok.inj ok
    exact conserva_apagarTokens db userId tokenTypeGoogleLink
  · simp only [Acesso.gravarToken, bind_eq_ok_iff, pure_eq_ok_iff] at ok
    obtain ⟨_, _, rfl⟩ := ok
    exact conserva_comErros db token.id _

/-- The code that is confirmed is one of the pending ones, so it was mailed for its Google
account. -/
theorem passo_confirmarVinculo (emDia : PortasEmDia cripto (db, envios)) (userId : Id)
    (codigo : String) (agora : Instant) :
    PassoDoGoogle cripto clientId envios db (.confirmarVinculo userId codigo agora)
      (db.confirmarVinculo cripto userId codigo agora).1 := by
  unfold Acesso.confirmarVinculo
  split
  · exact .conserva (.refl db)
  rename_i token found
  split
  · exact .conserva (conserva_apagarTokens db userId tokenTypeGoogleLink)
  split
  · split
    · rename_i contado
      exact .conserva (conserva_contarErro contado)
    · exact .conserva (.refl db)
  rename_i certo
  dsimp only
  split
  · rename_i depois vinculo vinculado
    simp only [bind_eq_ok_iff, orFail_eq_ok_iff] at vinculado
    obtain ⟨conta, lida, _, _, criado⟩ := vinculado
    obtain ⟨mem, dele, google⟩ := tokenAtivo_mem found
    have pendente : (userId, tokenTypeGoogleLink, some conta, token.codeHash) ∈ db.codigos :=
      List.mem_map.mpr ⟨token, mem, by rw [dele, google, lida]⟩
    obtain ⟨envio, enviado, para, daConta, hash, senha⟩ := emDia.pendentes userId conta _ pendente
    refine .vincula criado (conserva_apagarTokens depois userId tokenTypeGoogleLink)
      (.peloCodigo envio enviado para daConta senha ?_)
    rw [← hash]
    simpa using certo
  · exact .conserva (.refl db)

end Vincular

/-! ### One step -/

section Passos

variable {cripto : Cripto} {clientId : String} {envios mais : List EnvioDeCodigo}
  {db depois : Acesso} {acao : AcaoGoogle}

theorem passo_stepGoogle (clientId : String) (emDia : PortasEmDia cripto (db, envios))
    (acao : AcaoGoogle) :
    PassoDoGoogle cripto clientId envios db acao (db.stepGoogle cripto clientId acao) := by
  cases acao with
  | entrar payload agora => exact passo_entrar payload agora
  | vincular userId payload senhaAtual codigo agora =>
      exact passo_vincular userId payload senhaAtual codigo agora
  | confirmarVinculo userId codigo agora => exact passo_confirmarVinculo emDia userId codigo agora
  | desvincular userId =>
      unfold Acesso.stepGoogle
      dsimp only
      split
      · rename_i ok
        exact .conserva (conserva_desvincular ok)
      · exact .conserva (.refl db)
  | trocarSenha userId senha agora =>
      unfold Acesso.stepGoogle
      dsimp only
      split
      · rename_i ok
        exact .conserva (conserva_trocarSenha ok)
      · exact .conserva (.refl db)
  | noPainel acao =>
      exact .conserva ⟨List.Sublist.refl _, List.Subset.refl _,
        cpfUnico_guardado.agir cripto.toBcrypt db.painel acao⟩

theorem portasEmDia_of_conserva (emDia : PortasEmDia cripto (db, envios))
    (segue : Conserva db depois)
    (mais : List EnvioDeCodigo) : PortasEmDia cripto (depois, envios ++ mais) := by
  refine ⟨umParaUm_of_sublist emDia.umParaUm segue.portas, segue.cpf emDia.cpf, ?_⟩
  intro userId conta hash mem
  obtain ⟨envio, enviado, facts⟩ := emDia.pendentes userId conta hash (segue.codigos mem)
  exact ⟨envio, List.mem_append_left _ enviado, facts⟩

theorem portasEmDia_criarVinculo {userId : Id} {conta : ContaEscolhida} {agora : Instant}
    {vinculo : UserIdentity} (emDia : PortasEmDia cripto (db, envios))
    (criado : db.criarVinculo userId conta agora = .ok (depois, vinculo)) :
    PortasEmDia cripto (depois, envios) := by
  obtain ⟨_, _, _, tokens, pessoas, _⟩ := criarVinculo_ok criado
  refine ⟨umParaUm_criarVinculo emDia.umParaUm criado, ?_, ?_⟩
  · change depois.painel.CpfUnico
    unfold Painel.CpfUnico
    rw [pessoas]
    exact emDia.cpf
  · change ∀ userId conta hash, (userId, tokenTypeGoogleLink, some conta, hash) ∈ depois.codigos → _
    unfold Acesso.codigos
    rw [tokens]
    exact emDia.pendentes

/-- The code that is stored is the one that is mailed. -/
theorem portasEmDia_novoToken {envio : EnvioDeCodigo} {email : String} {expiresAt agora : Instant}
    (emDia : PortasEmDia cripto (db, envios)) (enviado : envio ∈ envios)
    (senha : envio.senhaConferida) :
    PortasEmDia cripto (db.novoToken envio.userId tokenTypeGoogleLink (some ⟨envio.subject, email⟩)
      (cripto.hash envio.codigo) expiresAt agora, envios) := by
  refine ⟨emDia.umParaUm, emDia.cpf, fun userId conta hash mem => ?_⟩
  obtain ⟨token, token_mem, same⟩ := List.mem_map.mp mem
  rcases List.mem_append.mp token_mem with old | new
  · exact emDia.pendentes userId conta hash
      (List.mem_map.mpr ⟨token, List.filter_sublist.subset old, same⟩)
  · obtain rfl := List.mem_singleton.mp new
    simp only [Prod.mk.injEq, Option.some.injEq, true_and] at same
    obtain ⟨rfl, rfl, rfl⟩ := same
    exact ⟨envio, enviado, rfl, rfl, rfl, senha⟩

/-- A step keeps the invariant, whatever it does. -/
theorem portasEmDia_step (sr : Acesso × List EnvioDeCodigo) (acao : AcaoGoogle)
    (emDia : PortasEmDia cripto sr) :
    PortasEmDia cripto
      (withHistory (Acesso.stepGoogle cripto clientId) (registrarEnvio cripto clientId)
        sr acao) := by
  obtain ⟨db, envios⟩ := sr
  unfold withHistory registrarEnvio
  dsimp only
  cases passo_stepGoogle clientId emDia acao with
  | conserva segue => exact portasEmDia_of_conserva emDia segue _
  | vincula criado segue _ =>
      exact portasEmDia_of_conserva (portasEmDia_criarVinculo emDia criado) segue _
  | envia segue enviado senha escrito =>
      rw [escrito]
      exact portasEmDia_novoToken (portasEmDia_of_conserva emDia segue _)
        (List.mem_append_right _ enviado) senha

/-- Of one step, the law. -/
theorem portaCerta_step (emDia : PortasEmDia cripto (db, envios)) (acao : AcaoGoogle) :
    PortaCerta cripto clientId (db, envios) acao := by
  refine ⟨fun userId subject after before => ?_, ?_⟩
  · cases passo_stepGoogle clientId emDia acao with
    | conserva segue => exact absurd (segue.portas.subset after) before
    | vincula criado segue origem =>
        obtain ⟨_, _, portas, _⟩ := criarVinculo_ok criado
        have inside := segue.portas.subset after
        rw [portas] at inside
        rcases List.mem_append.mp inside with old | new
        · exact absurd old before
        · obtain ⟨rfl, rfl⟩ := Prod.mk.inj (List.mem_singleton.mp new)
          exact origem
    | envia segue _ _ escrito =>
        have after : (userId, subject) ∈ (db.stepGoogle cripto clientId acao).portas := after
        rw [escrito] at after
        exact absurd (segue.portas.subset after) before
  · rintro payload agora sessao rfl ok
    exact entrar_ok emDia.cpf ok

end Passos

/-! ### Runs -/

/-- In every order of entering, linking, confirming and unlinking, with anything that happens to the
records in between: a person has one Google account at most, and a Google account one person; every
link comes from the code mailed for it after the password, or from a verified e-mail of one person
without a Google account that Google answers for; and a session is of the person linked to the
Google account. -/
theorem portaCerta_run (cripto : Cripto) (clientId : String) (db : Acesso)
    (envios : List EnvioDeCodigo) (emDia : PortasEmDia cripto (db, envios))
    (acoes : List AcaoGoogle) :
    Always (withHistory (Acesso.stepGoogle cripto clientId) (registrarEnvio cripto clientId))
        (fun sr => sr.1.UmParaUm) (db, envios) acoes ∧
      EachStep (withHistory (Acesso.stepGoogle cripto clientId) (registrarEnvio cripto clientId))
        (PortaCerta cripto clientId) (db, envios) acoes := by
  have always : Always (withHistory (Acesso.stepGoogle cripto clientId)
      (registrarEnvio cripto clientId)) (PortasEmDia cripto) (db, envios) acoes :=
    always_of_step portasEmDia_step emDia acoes
  exact ⟨always.mono fun _ emDia => emDia.umParaUm,
    always.eachStep fun _ acao emDia => portaCerta_step emDia acao⟩

namespace AnaComGoogle

def conta : TokenPayload := ⟨"g-1", some "A@b.c", some "Ana", some true, some "b.c"⟩

/-- Ana links her account with a code, unlinks it, and enters with it by e-mail. -/
def acoes : List AcaoGoogle :=
  [.trocarSenha 7 "senha" 0, .vincular 7 (some conta) (some "senha") "12345678" 1,
    .confirmarVinculo 7 "12345678" 2, .desvincular 7, .entrar (some conta) 3]

/-- Nobody is linked, and no code was mailed. -/
theorem portasEmDia : PortasEmDia CodigoRenovado.cripto (CodigoRenovado.acesso, []) where
  umParaUm := ⟨by decide, by decide⟩
  cpf := by
    unfold Painel.CpfUnico
    decide
  pendentes _ _ _ absent := absurd absent List.not_mem_nil

/-- The code links the account. -/
example : (runFrom (Acesso.stepGoogle CodigoRenovado.cripto "app") CodigoRenovado.acesso
    (acoes.take 3)).portas = [(7, "g-1")] := by decide +kernel

end AnaComGoogle

theorem portaCerta_run_ana :
    Always (withHistory (Acesso.stepGoogle CodigoRenovado.cripto "app")
        (registrarEnvio CodigoRenovado.cripto "app"))
        (fun sr => sr.1.UmParaUm) (CodigoRenovado.acesso, []) AnaComGoogle.acoes ∧
      EachStep (withHistory (Acesso.stepGoogle CodigoRenovado.cripto "app")
        (registrarEnvio CodigoRenovado.cripto "app"))
        (PortaCerta CodigoRenovado.cripto "app") (CodigoRenovado.acesso, []) AnaComGoogle.acoes :=
  portaCerta_run CodigoRenovado.cripto "app" CodigoRenovado.acesso [] AnaComGoogle.portasEmDia
    AnaComGoogle.acoes

end IccvBackend
