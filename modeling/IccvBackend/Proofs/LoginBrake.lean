/-
Module: IccvBackend.Proofs.LoginBrake
Purpose: The brake on wrong passwords: the block that is announced is the one that is applied, and
  no window holds more than five comparisons.
Trusted boundary: none
Main exports: Freio, JanelasContidas, EspelhaFalhas, situacao_eq, freio_run
-/
import IccvBackend.Auth.Login
import IccvBackend.Lib.Brake
import IccvBackend.Proofs.CodeLifetime

namespace IccvBackend

open Lib

/-! ### The law -/

/-- The password is compared. -/
def Acesso.compara (db : Acesso) (document : String) (agora : Instant) : Prop :=
  ∃ user falhas, db.antesDaSenha document true agora = .comparar user falhas

/-- In an announced block every attempt is refused until the same instant and compares no password;
and the attempt after a wrong password finds the block that was announced, while it lasts. -/
structure Freio (cripto : Cripto) (document : String) (sr : Acesso × RegistroDeLogin)
    (acao : AcaoDeLogin) : Prop where
  bloqueia : ∀ password agora, acao = .tentar password agora →
    ∀ ate ∈ sr.2.anunciados, agora < ate →
    anuncio (sr.1.validateUser cripto.compara document password true agora).2 = some ate ∧
      ¬ sr.1.compara document agora
  anunciado : ∀ password agora, acao = .tentar password agora → ∀ anunciado ∈ sr.2.anterior,
    (sr.1.situacao document agora).1.bloqueadoAte = anunciado.filter fun ate => agora < ate

/-- No half-open window holds more than five wrong passwords compared since the last success or
change of the password. -/
def JanelasContidas (sr : Acesso × RegistroDeLogin) : Prop :=
  ∀ a, (sr.2.erradas.filter fun e => a ≤ e && e < a + janelaMs).length ≤ falhasParaBloqueio ∧
    (sr.2.erradas.filter fun e => a < e && e ≤ a + janelaMs).length ≤ falhasParaBloqueio

/-! ### The rows and what is remembered of them -/

/-- The block of a list of failures. -/
def bloqueioDe (falhas : List Nat) (agora : Nat) : Option Nat :=
  lockedUntil janelaMs falhasParaBloqueio falhas agora

theorem situacaoDoLogin_bloqueadoAte (falhas : List Instant) (agora : Instant) :
    (situacaoDoLogin falhas agora).bloqueadoAte = bloqueioDe falhas agora := by
  unfold situacaoDoLogin bloqueioDe
  dsimp only
  split
  · rename_i bloqueado
    rw [← bloqueado]
    cases falhas <;> rfl
  · rename_i livre
    rw [← livre]
    cases falhas <;> rfl

/-- The rows of the document say what is remembered: the successes and the change of the password
are not after the last one, and the wrong passwords since then are the ones compared. -/
structure EspelhaFalhas (document : String) (userId : Id) (db : Acesso) (r : RegistroDeLogin) :
    Prop where
  pessoa : ∃ user, db.findByDocument document = some user ∧ user.id = userId
  acertos : ∀ t ∈ db.tentativas, t.document = document → t.success = true → t.createdAt ≤ r.marco
  trocada : (db.passwordChangedAt userId).getD 0 ≤ r.marco
  atingido : (db.passwordChangedAt userId).getD 0 = r.marco ∨
    ∃ t ∈ db.tentativas, t.document = document ∧ t.success = true ∧ t.createdAt = r.marco
  linhas : (db.tentativas.filter fun t => t.document = document && t.reason = some .wrongPassword &&
    r.marco < t.createdAt).map LoginAttempt.createdAt = r.erradas.reverse
  ordem : r.erradas.Pairwise (· > ·)
  passadas : ∀ e ∈ r.erradas, e ≤ r.relogio
  relogio : r.marco ≤ r.relogio

section Linhas

variable {document : String} {userId : Id} {db : Acesso} {r : RegistroDeLogin} {agora : Instant}

/-- The successes that are too old to be looked for count for nothing. -/
theorem marco_eq (espelha : EspelhaFalhas document userId db r) :
    db.marco document agora = max (agora - 2 * janelaMs) r.marco := by
  obtain ⟨user, found, rfl⟩ := espelha.pessoa
  have trocada : ((db.findByDocument document).bind fun p => db.passwordChangedAt p.id) =
      db.passwordChangedAt user.id := by rw [found]; rfl
  unfold Acesso.marco
  dsimp only
  rw [trocada]
  refine le_antisymm (max_le_max_left _ (max_le ?_ espelha.trocada)) (max_le (le_max_left _ _) ?_)
  · cases acerto : db.ultimoAcerto document (agora - 2 * janelaMs) with
    | none => exact Nat.zero_le _
    | some t =>
        obtain ⟨mem, here⟩ := List.mem_filter.mp (firstMax_mem acerto)
        simp only [Bool.and_eq_true, decide_eq_true_eq] at here
        exact espelha.acertos t mem here.1.1 here.1.2
  · rcases espelha.atingido with mudou | ⟨t, mem, mine, success, same⟩
    · rw [← mudou]
      exact (le_max_right _ _).trans (le_max_right _ _)
    · by_cases recente : agora - 2 * janelaMs ≤ r.marco
      · have listed : t ∈ db.tentativas.filter fun t =>
            t.document = document && t.success && (agora - 2 * janelaMs ≤ t.createdAt : Bool) :=
          List.mem_filter.mpr ⟨mem, by simp [mine, success, same, recente]⟩
        cases acerto : db.ultimoAcerto document (agora - 2 * janelaMs) with
        | none =>
            rw [firstMax_eq_none_iff.mp acerto] at listed
            cases listed
        | some ultimo =>
            have newest := le_firstMax acerto t listed
            exact (same ▸ newest).trans ((le_max_left _ _).trans (le_max_right _ _))
      · exact (not_le.mp recente).le.trans (le_max_left _ _)

/-- The failures asked of the table are the ones remembered, but for the oldest. -/
theorem datasDasFalhas_eq (espelha : EspelhaFalhas document userId db r) :
    db.datasDasFalhas document agora = r.erradas.filter fun e => agora - 2 * janelaMs < e := by
  have rows : (db.tentativas.filter fun t =>
      t.document = document && t.reason = some .wrongPassword &&
        db.marco document agora < t.createdAt) =
      (db.tentativas.filter fun t => t.document = document && t.reason = some .wrongPassword &&
        r.marco < t.createdAt).filter fun t => agora - 2 * janelaMs < t.createdAt := by
    rw [List.filter_filter, marco_eq espelha]
    refine List.filter_congr fun t _ => ?_
    by_cases recente : agora - 2 * janelaMs < t.createdAt <;> simp [recente]
  have reversed : ((db.tentativas.filter fun t =>
      t.document = document && t.reason = some .wrongPassword &&
        db.marco document agora < t.createdAt).map LoginAttempt.createdAt) =
      (r.erradas.filter fun e => agora - 2 * janelaMs < e).reverse := by
    rw [rows, ← List.filter_reverse, ← espelha.linhas, List.filter_map]
    rfl
  have ordered : (r.erradas.filter fun e => agora - 2 * janelaMs < e).Pairwise (· ≥ ·) :=
    (espelha.ordem.imp fun after => le_of_lt after).sublist List.filter_sublist
  unfold Acesso.datasDasFalhas
  rw [reversed]
  refine List.Perm.eq_of_pairwise' (List.pairwise_insertionSort _ _) ordered ?_
  exact (List.perm_insertionSort _ _).trans (List.reverse_perm _)

theorem marco_lt_erradas (espelha : EspelhaFalhas document userId db r) :
    ∀ e ∈ r.erradas, r.marco < e := by
  intro e mem
  have listed := List.mem_reverse.mpr mem
  rw [← espelha.linhas] at listed
  obtain ⟨t, t_mem, rfl⟩ := List.mem_map.mp listed
  have here := (List.mem_filter.mp t_mem).2
  simp only [Bool.and_eq_true, decide_eq_true_eq] at here
  exact here.2

/-- The situation of a document is the one of the wrong passwords remembered. -/
theorem situacao_eq (espelha : EspelhaFalhas document userId db r) :
    (db.situacao document agora).1.bloqueadoAte = bloqueioDe r.erradas agora ∧
      (db.situacao document agora).2 = recent janelaMs r.erradas agora := by
  have old : ∀ e ∈ r.erradas, e ≤ agora - 2 * janelaMs → e + 2 * janelaMs ≤ agora := by
    intro e mem gone
    have positive := (Nat.zero_le r.marco).trans_lt (marco_lt_erradas espelha e mem)
    exact (Nat.le_sub_iff_add_le (Nat.le_of_lt (Nat.lt_of_sub_pos (positive.trans_le gone)))).mp
      gone
  unfold Acesso.situacao
  dsimp only
  rw [datasDasFalhas_eq espelha, situacaoDoLogin_bloqueadoAte]
  refine ⟨lockedUntil_filter espelha.ordem old, recent_filter fun e mem gone => ?_⟩
  exact (Nat.add_le_add_left (Nat.le_mul_of_pos_left _ two_pos) e).trans (old e mem gone)

/-- In a block nothing is compared. -/
theorem antesDaSenha_bloqueado (espelha : EspelhaFalhas document userId db r) {ate : Instant}
    (bloqueio : bloqueioDe r.erradas agora = some ate) :
    ∃ mensagem, db.antesDaSenha document true agora = .recusa (loginBloqueado ate mensagem) := by
  have same := (situacao_eq espelha).1.trans bloqueio
  unfold Acesso.antesDaSenha
  dsimp only
  rw [same]
  exact ⟨_, rfl⟩

/-- Out of a block the password of the person is compared. -/
theorem antesDaSenha_livre (espelha : EspelhaFalhas document userId db r)
    (bloqueio : bloqueioDe r.erradas agora = none) :
    ∃ user, db.findByDocument document = some user ∧ user.id = userId ∧
      db.antesDaSenha document true agora = .comparar user (recent janelaMs r.erradas agora) := by
  obtain ⟨user, found, named⟩ := espelha.pessoa
  have same := (situacao_eq espelha).1.trans bloqueio
  refine ⟨user, found, named, ?_⟩
  unfold Acesso.antesDaSenha
  dsimp only
  rw [same, (situacao_eq espelha).2]
  simp [found]

/-- The clock moves on, and nothing else happens. -/
theorem EspelhaFalhas.depois (espelha : EspelhaFalhas document userId db r)
    (later : r.relogio < agora) (anunciados : List Instant) (anterior : Option (Option Instant)) :
    EspelhaFalhas document userId db
      { r with relogio := agora, anunciados := anunciados, anterior := anterior } :=
  { espelha with
    passadas := fun e mem => (espelha.passadas e mem).trans later.le
    relogio := espelha.relogio.trans later.le }

/-- No wrong password of the document is after the last action. -/
theorem semFalhas_depois (espelha : EspelhaFalhas document userId db r)
    (later : r.relogio < agora) :
    db.tentativas.filter (fun t => t.document = document && t.reason = some .wrongPassword &&
      agora < t.createdAt) = [] := by
  rw [List.filter_eq_nil_iff]
  intro t mem here
  simp only [Bool.and_eq_true, decide_eq_true_eq] at here
  obtain ⟨⟨mine, wrong⟩, after⟩ := here
  have recente : r.marco < t.createdAt := (espelha.relogio.trans_lt later).trans after
  have listed : t.createdAt ∈ r.erradas.reverse := by
    rw [← espelha.linhas]
    exact List.mem_map.mpr ⟨t, List.mem_filter.mpr ⟨mem, by simp [mine, wrong, recente]⟩, rfl⟩
  have past := espelha.passadas _ (List.mem_reverse.mp listed)
  exact absurd (past.trans_lt (later.trans after)) (lt_irrefl _)

/-- A success. -/
theorem espelha_acerto (espelha : EspelhaFalhas document userId db r) (later : r.relogio < agora)
    (quem : Option Id) (anunciados : List Instant) :
    EspelhaFalhas document userId (db.tentativaComSenha document quem true none agora)
      ⟨agora, agora, [], anunciados, none⟩ where
  pessoa := espelha.pessoa
  acertos t mem mine success := by
    rcases List.mem_append.mp mem with old | new
    · exact (espelha.acertos t old mine success).trans (espelha.relogio.trans later.le)
    · obtain rfl := List.mem_singleton.mp new
      exact le_rfl
  trocada := espelha.trocada.trans (espelha.relogio.trans later.le)
  atingido := .inr ⟨_, List.mem_append_right _ (List.mem_singleton.mpr rfl), rfl, rfl, rfl⟩
  linhas := by
    simp [Acesso.tentativaComSenha, Acesso.registrarTentativa, List.filter_append,
      semFalhas_depois espelha later]
  ordem := .nil
  passadas := by simp
  relogio := le_rfl

/-- A wrong password. -/
theorem espelha_erro (espelha : EspelhaFalhas document userId db r) (later : r.relogio < agora)
    (quem : Option Id) (anunciados : List Instant) (anterior : Option (Option Instant)) :
    EspelhaFalhas document userId
      (db.tentativaComSenha document quem false (some .wrongPassword) agora)
      ⟨agora, r.marco, agora :: r.erradas, anunciados, anterior⟩ where
  pessoa := espelha.pessoa
  acertos t mem mine success := by
    rcases List.mem_append.mp mem with old | new
    · exact espelha.acertos t old mine success
    · obtain rfl := List.mem_singleton.mp new
      cases success
  trocada := espelha.trocada
  atingido := espelha.atingido.imp_right fun ⟨t, mem, rest⟩ => ⟨t, List.mem_append_left _ mem, rest⟩
  linhas := by
    have recente : r.marco < agora := espelha.relogio.trans_lt later
    simp [Acesso.tentativaComSenha, Acesso.registrarTentativa, List.filter_append, recente,
      ← espelha.linhas]
  ordem := List.pairwise_cons.mpr
    ⟨fun e mem => (espelha.passadas e mem).trans_lt later, espelha.ordem⟩
  passadas e mem := by
    rcases List.mem_cons.mp mem with rfl | old
    · exact le_rfl
    · exact (espelha.passadas e old).trans later.le
  relogio := espelha.relogio.trans later.le

/-- A change of the password. -/
theorem espelha_trocada (cripto : Cripto) (espelha : EspelhaFalhas document userId db r)
    (later : r.relogio < agora) (senha : String) (anunciados : List Instant) :
    EspelhaFalhas document userId (db.stepDoLogin cripto document userId (.trocarSenha senha agora))
      ⟨agora, agora, [], anunciados, none⟩ := by
  obtain ⟨user, found, rfl⟩ := espelha.pessoa
  have mem : user ∈ db.painel.pessoas := by
    unfold Acesso.findByDocument at found
    split at found
    · cases found
    · exact List.mem_of_find?_eq_some found
  obtain ⟨row, there⟩ := Option.isSome_iff_exists.mp (lookup_isSome_of_mem Pessoa.id mem)
  have saved : db.painel.pessoa? user.id = some row := there
  simp only [Acesso.stepDoLogin, Acesso.trocarSenha, saved, orFail, bind, Except.bind,
    pure, Except.pure]
  refine ⟨?_, fun t mem mine success => ?_, by simp, .inl (by simp), ?_, .nil, by simp, le_rfl⟩
  · unfold Acesso.findByDocument at found ⊢
    split at found
    · cases found
    · rename_i named
      have moved : (updateKey Pessoa.id user.id
          (fun p => { p with password := cripto.hash senha }) db.painel.pessoas).find?
            (fun p => p.cpf = document) = _ := find?_updateKey fun _ => rfl
      rw [if_neg named, moved, found]
      exact ⟨_, rfl, by simp⟩
  · exact (espelha.acertos t mem mine success).trans (espelha.relogio.trans later.le)
  · simp [semFalhas_depois espelha later]

end Linhas

/-! ### One step -/

/-- What a run of attempts keeps. -/
structure EmFreio (document : String) (userId : Id) (sr : Acesso × RegistroDeLogin) : Prop where
  espelha : EspelhaFalhas document userId sr.1 sr.2
  livre : userId ∉ sr.1.painel.bloqueios
  janela : Braked janelaMs falhasParaBloqueio sr.2.erradas
  anunciados : ∀ ate ∈ sr.2.anunciados,
    ate ≤ sr.2.relogio ∨ bloqueioDe sr.2.erradas sr.2.relogio = some ate
  anterior : ∀ anunciado ∈ sr.2.anterior, ∀ agora, sr.2.relogio < agora →
    bloqueioDe sr.2.erradas agora = anunciado.filter fun ate => agora < ate

section Passo

variable {document : String} {userId : Id} {db : Acesso} {r : RegistroDeLogin} {agora : Instant}
  {cripto : Cripto} {password : String}

/-- An announced block is over, or is the block of now. -/
theorem anunciado_vale (emFreio : EmFreio document userId (db, r)) (later : r.relogio < agora)
    {ate : Instant} (mem : ate ∈ r.anunciados) :
    ate ≤ agora ∨ bloqueioDe r.erradas agora = some ate := by
  rcases emFreio.anunciados ate mem with ended | bloqueio
  · exact .inl (ended.trans later.le)
  · by_cases running : agora < ate
    · exact .inr (lockedUntil_of_lt bloqueio running)
    · exact .inl (not_lt.mp running)

/-- The law, of a state that a run keeps. -/
theorem freio_of_emFreio (emFreio : EmFreio document userId (db, r)) (acao : AcaoDeLogin)
    (later : r.relogio < acao.instante) : Freio cripto document (db, r) acao where
  bloqueia password agora same ate mem running := by
    subst same
    have later : r.relogio < agora := later
    have bloqueio := (anunciado_vale emFreio later mem).resolve_left (not_le.mpr running)
    obtain ⟨mensagem, refused⟩ : ∃ mensagem,
        db.antesDaSenha document true agora = .recusa (loginBloqueado ate mensagem) :=
      antesDaSenha_bloqueado emFreio.espelha bloqueio
    constructor
    · simp [Acesso.validateUser, refused, anuncio, loginBloqueado]
    · rintro ⟨user, falhas, compared⟩
      exact absurd (refused.symm.trans compared) (by simp)
  anunciado password agora same anunciado mem := by
    subst same
    rw [(situacao_eq emFreio.espelha).1]
    exact emFreio.anterior anunciado mem agora later

theorem janela_aberta : 0 < janelaMs := by decide

/-- A password that is wrong announces the block that the next attempt finds. -/
theorem anuncio_respostaDoErro (falhas : Nat) (agora : Instant) :
    anuncio (.error (Acesso.respostaDoErro (falhas + 1) agora)) =
      if falhasParaBloqueio ≤ falhas + 1 then some (agora + janelaMs) else none := by
  unfold Acesso.respostaDoErro
  split <;> rfl

/-- The next attempt finds what was announced. -/
theorem bloqueio_anunciado (falhas : List Nat) (agora depois : Nat) :
    bloqueioDe (agora :: falhas) depois =
      (if falhasParaBloqueio ≤ recent janelaMs falhas agora + 1 then some (agora + janelaMs)
        else none).filter fun ate => depois < ate := by
  unfold bloqueioDe
  rw [lockedUntil_cons janela_aberta]
  by_cases enough : falhasParaBloqueio ≤ recent janelaMs falhas agora + 1
  · by_cases running : depois < agora + janelaMs <;> simp [enough, running, Option.filter_some]
  · simp [enough]

theorem emFreio_tentar (emFreio : EmFreio document userId (db, r)) (later : r.relogio < agora) :
    EmFreio document userId (withHistory (Acesso.stepDoLogin cripto document userId)
      (RegistroDeLogin.registrar cripto document) (db, r) (.tentar password agora)) := by
  cases bloqueio : bloqueioDe r.erradas agora with
  | some ate =>
      -- nothing is recorded, and the block is announced again
      obtain ⟨mensagem, refused⟩ : ∃ mensagem,
          db.antesDaSenha document true agora = .recusa (loginBloqueado ate mensagem) :=
        antesDaSenha_bloqueado emFreio.espelha bloqueio
      simp only [withHistory, Acesso.stepDoLogin, RegistroDeLogin.registrar, Acesso.validateUser,
        refused, anuncio, loginBloqueado, Option.toList_some]
      refine ⟨emFreio.espelha.depois later _ _, emFreio.livre, emFreio.janela, fun other mem => ?_,
        by simp⟩
      rcases List.mem_cons.mp mem with rfl | old
      · exact .inr bloqueio
      · exact anunciado_vale emFreio later old
  | none =>
      obtain ⟨user, found, rfl, compared⟩ := antesDaSenha_livre emFreio.espelha bloqueio
      have antigos : ∀ ate ∈ r.anunciados, ate ≤ agora := fun ate mem =>
        (anunciado_vale emFreio later mem).resolve_right (by simp [bloqueio])
      by_cases right : cripto.compara password user.password
      · have free : user.id ∉ db.painel.bloqueios := emFreio.livre
        simp only [withHistory, Acesso.stepDoLogin, RegistroDeLogin.registrar, Acesso.validateUser,
          compared, right, free, if_true, if_false, anuncio, Option.toList_none, List.nil_append]
        exact ⟨espelha_acerto emFreio.espelha later _ _, free, .nil,
          fun ate mem => .inl (antigos ate mem), by simp⟩
      · simp only [withHistory, Acesso.stepDoLogin, RegistroDeLogin.registrar, Acesso.validateUser,
          compared, right, Bool.false_eq_true, if_false, anuncio_respostaDoErro]
        refine ⟨espelha_erro emFreio.espelha later _ _ _, emFreio.livre,
          emFreio.janela.cons emFreio.espelha.ordem
            (fun e mem => (emFreio.espelha.passadas e mem).trans_lt later) (by decide) bloqueio,
          fun ate mem => ?_, ?_⟩
        · rcases List.mem_append.mp mem with new | old
          · have announced := Option.mem_toList.mp new
            have running : agora < ate :=
              Option.some.inj (Option.ite_none_right_eq_some.mp announced).2 ▸
                Nat.lt_add_of_pos_right janela_aberta
            refine .inr ((bloqueio_anunciado _ _ _).trans ?_)
            rw [announced, Option.filter_some, if_pos (decide_eq_true running)]
          · exact .inl (antigos ate old)
        · intro anunciado same depois _
          obtain rfl := Option.some.inj same
          exact bloqueio_anunciado r.erradas agora depois

theorem emFreio_step (sr : Acesso × RegistroDeLogin) (acao : AcaoDeLogin)
    (emFreio : EmFreio document userId sr) (later : sr.2.relogio < acao.instante) :
    EmFreio document userId (withHistory (Acesso.stepDoLogin cripto document userId)
      (RegistroDeLogin.registrar cripto document) sr acao) := by
  obtain ⟨db, r⟩ := sr
  cases acao with
  | tentar password agora => exact emFreio_tentar emFreio later
  | trocarSenha senha agora =>
      refine ⟨espelha_trocada cripto emFreio.espelha later senha [], ?_, .nil, ?_, ?_⟩
      · have free : userId ∉ db.painel.bloqueios := emFreio.livre
        simp only [withHistory, Acesso.stepDoLogin]
        split
        · rename_i saved
          simp only [Acesso.trocarSenha, bind_eq_ok_iff, pure_eq_ok_iff] at saved
          obtain ⟨_, _, rfl⟩ := saved
          exact free
        · exact free
      · exact fun ate absent => absurd absent List.not_mem_nil
      · exact fun anunciado absent => by cases absent

end Passo

/-! ### Runs -/

/-- The instants of a run grow from the one it starts at. -/
def Crescente (inicio : Instant) (acoes : List AcaoDeLogin) : Prop :=
  (inicio :: acoes.map AcaoDeLogin.instante).Pairwise (· < ·)

theorem relogio_registrar (cripto : Cripto) (document : String) (r : RegistroDeLogin)
    (db depois : Acesso) (acao : AcaoDeLogin) :
    (r.registrar cripto document db acao depois).relogio = acao.instante := by
  cases acao with
  | trocarSenha senha agora => rfl
  | tentar password agora =>
      simp only [RegistroDeLogin.registrar]
      split
      · split <;> rfl
      · rfl

/-- The clock of a run is the instant of its last action. -/
theorem eachStep_crescente (cripto : Cripto) (document : String) (userId : Id) :
    ∀ (acoes : List AcaoDeLogin) (sr : Acesso × RegistroDeLogin), Crescente sr.2.relogio acoes →
      EachStep (withHistory (Acesso.stepDoLogin cripto document userId)
        (RegistroDeLogin.registrar cripto document)) (fun sr acao => sr.2.relogio < acao.instante)
        sr acoes
  | [], _, _ => trivial
  | acao :: acoes, sr, crescente => by
      obtain ⟨first, rest⟩ := List.pairwise_cons.mp crescente
      refine ⟨first _ (List.mem_map.mpr ⟨acao, List.mem_cons_self, rfl⟩),
        eachStep_crescente cripto document userId acoes _ ?_⟩
      unfold Crescente withHistory
      rw [relogio_registrar]
      exact rest

/-- What is remembered when a run starts: nothing, but the last change of the password. -/
def Acesso.registroInicial (db : Acesso) (userId : Id) (inicio : Instant) : RegistroDeLogin :=
  ⟨inicio, (db.passwordChangedAt userId).getD 0, [], [], none⟩

/-- For a registered document whose account is not blocked, and that nobody tried to sign in with
yet, every run of attempts and of changes of the password at growing instants obeys the brake. -/
theorem freio_run (cripto : Cripto) (document : String) (db : Acesso) (user : Pessoa)
    (inicio : Instant) (acoes : List AcaoDeLogin)
    (registrado : db.findByDocument document = some user) (livre : user.id ∉ db.painel.bloqueios)
    (semTentativas : ∀ t ∈ db.tentativas, t.document ≠ document)
    (trocada : (db.passwordChangedAt user.id).getD 0 ≤ inicio)
    (crescente : Crescente inicio acoes) :
    EachStep (withHistory (Acesso.stepDoLogin cripto document user.id)
        (RegistroDeLogin.registrar cripto document)) (Freio cripto document)
        (db, db.registroInicial user.id inicio) acoes ∧
      Always (withHistory (Acesso.stepDoLogin cripto document user.id)
        (RegistroDeLogin.registrar cripto document)) JanelasContidas
        (db, db.registroInicial user.id inicio) acoes := by
  have start : EmFreio document user.id (db, db.registroInicial user.id inicio) := by
    refine ⟨⟨⟨user, registrado, rfl⟩, fun t mem mine => absurd mine (semTentativas t mem), le_rfl,
      .inl rfl, ?_, .nil, fun e absent => absurd absent List.not_mem_nil, trocada⟩, livre, .nil,
      fun ate absent => absurd absent List.not_mem_nil, fun anunciado absent => by cases absent⟩
    have semLinhas : db.tentativas.filter (fun t => t.document = document &&
        t.reason = some .wrongPassword &&
          (db.registroInicial user.id inicio).marco < t.createdAt) = [] := by
      rw [List.filter_eq_nil_iff]
      intro t mem here
      simp only [Bool.and_eq_true, decide_eq_true_eq] at here
      exact semTentativas t mem here.1.1
    rw [semLinhas]
    rfl
  have clock := eachStep_crescente cripto document user.id acoes
    (db, db.registroInicial user.id inicio) crescente
  have always := always_of_eachStep emFreio_step start clock
  constructor
  · exact eachStep_of_always
      (fun _ acao emFreio later => freio_of_emFreio emFreio acao later) always clock
  · exact always.mono fun _ emFreio a => ⟨emFreio.janela _ (fits_closed_open janelaMs a),
      emFreio.janela _ (fits_open_closed janelaMs a)⟩

namespace CincoErros

/-- Five wrong passwords, an attempt in the block, and a right password after it. -/
def acoes : List AcaoDeLogin :=
  [.tentar "a" 1, .tentar "b" 2, .tentar "c" 3, .tentar "d" 4, .tentar "e" 5, .tentar "" 6,
    .tentar "" (5 + janelaMs)]

theorem crescente : Crescente 0 acoes := by
  unfold Crescente
  decide

end CincoErros

theorem freio_run_cincoErros :
    EachStep (withHistory (Acesso.stepDoLogin CodigoRenovado.cripto "1" 7)
        (RegistroDeLogin.registrar CodigoRenovado.cripto "1")) (Freio CodigoRenovado.cripto "1")
        (CodigoRenovado.acesso, CodigoRenovado.acesso.registroInicial 7 0) CincoErros.acoes ∧
      Always (withHistory (Acesso.stepDoLogin CodigoRenovado.cripto "1" 7)
        (RegistroDeLogin.registrar CodigoRenovado.cripto "1")) JanelasContidas
        (CodigoRenovado.acesso, CodigoRenovado.acesso.registroInicial 7 0) CincoErros.acoes :=
  freio_run CodigoRenovado.cripto "1" CodigoRenovado.acesso
    ⟨7, Role.admin, "a@b.c", "1", "", "Ana", ⟨none, none, none⟩, none, none, none, none, []⟩ 0
    CincoErros.acoes rfl (by decide) (by decide) (by decide) CincoErros.crescente

end IccvBackend
