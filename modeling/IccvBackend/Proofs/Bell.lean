/-
Module: IccvBackend.Proofs.Bell
Purpose: The notifications over whole runs: one per source and year, never to who did it, never lost
  to a repeated key, and kept in the bell as long as promised.
Trusted boundary: none
Main exports: Sininho.UmaPorOrigem, Sininho.EntregaOuRegistra, Sininho.Guardadas,
  uma_por_origem_run, guardadas_run
-/
import IccvBackend.Lib.Tasks
import IccvBackend.Notificacoes.Notificar

namespace IccvBackend

open Lib

namespace Sininho

variable {s s' : Sininho} {i : Nat} {d : Entrega} {envio : EnvioDoAviso} {para : List Id}

/-! ### The laws -/

/-- What a notice that is about to be written has for certain. -/
structure Pronto (envio : EnvioDoAviso) (para : List Id) : Prop where
  alguem : para ≠ []
  uma_vez : para.Nodup
  nao_quem_fez : ∀ id ∈ para, some id ≠ envio.quemFez

/-- The source was notified less than a year ago, and its notice did not leave with the church. -/
def Recente (s : Sininho) (c : Criada) (quando : Instant) : Prop :=
  c.envio.aviso.origem ∉ s.esquecidas ∧ quando ≤ c.quando + dias 365

/-- One notice per source and year, each to somebody, to nobody twice and never to who did it. -/
structure UmaPorOrigem (s : Sininho) : Prop where
  uma : (s.notifications.map fun n => n.aviso.origem).Nodup
  por_ano : s.criadas.Pairwise fun a b =>
    a.envio.aviso.origem = b.envio.aviso.origem → ¬ s.Recente a b.quando
  a_quem : ∀ c ∈ s.criadas, Pronto c.envio c.para

/-- A notice of `quando` is not to be taken yet: it was read less than 90 days ago, or never, and is
less than 180 days old. -/
def NoPrazo (s : Sininho) (chave : Id × Id) (quando : Instant) : Prop :=
  (∃ l ∈ s.lidas, l.chave = chave ∧ s.agora ≤ l.quando + dias 90) ∨
    (∀ l ∈ s.lidas, l.chave ≠ chave) ∧ s.agora ≤ quando + dias 180

/-- Whoever was notified has it in the bell for 180 days while it is unread, and for 90 from when it
was read; unless it was taken: the request is over, or the person or the church is gone. -/
def Guardadas (s : Sininho) : Prop :=
  ∀ c ∈ s.criadas, ∀ userId ∈ c.para, (c.id, userId) ∉ s.retiradas →
    s.NoPrazo (c.id, userId) c.quando → ∃ r ∈ s.recipients, r.chave = (c.id, userId)

/-- The bell of everybody: the last thirty with the notice of each, and nothing unread once all were
marked. -/
structure SinoCerto (s : Sininho) : Prop where
  listadas : ∀ userId, (s.listar userId).length =
    min limite (s.recipients.countP fun r => r.userId = userId)
  marcadas : ∀ userId, (s.marcarLidas userId none).contarNaoLidas userId = 0

/-- The last statement of a dispatch: the source has its notice, an older one or one that reaches
all of `para`; or the error is in the log, and somebody or the church is gone since the reads. -/
def EntregaOuRegistra (s : Sininho) (a : Acao) : Prop :=
  ∀ i d envio para, a = .seguir i → s.disparos[i]? = some d → d.fase = .criar envio para →
    (∃ n ∈ (s.agir a).notifications, n.aviso.origem = envio.aviso.origem ∧
      (n ∈ s.notifications ∨
        ∀ userId ∈ para, ∃ r ∈ (s.agir a).recipients, r.chave = (n.id, userId))) ∨
    ((s.agir a).erros = s.erros ++ [d.pedido] ∧
      (s.mundo.igreja? envio.aviso.churchId = none ∨
        ∃ userId ∈ para, s.mundo.pessoa? userId = none))

/-! ### Who is asked for -/

theorem nodup_vinculadosDa (m : Mundo) (churchId : Id) (roles : List Int) :
    (m.vinculadosDa churchId roles).Nodup := by
  have keys := m.churchRoles_key.sublist ((List.filter_sublist
    (p := fun v => decide (v.churchId = churchId) && decide (v.role ∈ roles))).map _)
  refine List.Nodup.of_map (fun userId => (userId, churchId)) ?_
  rw [Mundo.vinculadosDa, List.map_map]
  refine (List.map_congr_left fun v mem => ?_) ▸ keys
  have here := (List.mem_filter.mp mem).2
  simp only [Bool.and_eq_true, decide_eq_true_eq] at here
  rw [Function.comp_apply, here.1]

theorem nodup_publicoDa (m : Mundo) (churchId : Id) (eventId : Option Id) :
    (m.publicoDa churchId eventId).Nodup :=
  m.users_key.sublist (List.filter_sublist.map _)

/-- People named by the dispatch itself are named once. -/
def NomeadosUmaVez : Publico → Prop
  | .estes userIds => userIds.Nodup
  | _ => True

theorem nodup_ler {p : Publico} (m : Mundo) (once : NomeadosUmaVez p) : (p.ler m).Nodup := by
  cases p with
  | vinculados churchId roles => exact nodup_vinculadosDa m churchId roles
  | publico churchId eventId => exact nodup_publicoDa m churchId eventId
  | estes userIds => exact once

theorem nomeados_pedido {m : Mundo} {pedido : Gatilho} (sends : pedido.ler m = some envio) :
    NomeadosUmaVez envio.publico := by
  cases pedido with
  | pedidoDeMembro userId churchId =>
      obtain rfl := Option.some.inj sends
      trivial
  | respostaDoPedido userId churchId aceito quemFez =>
      obtain rfl := Option.some.inj sends
      exact List.nodup_singleton userId
  | solicitacao requestId =>
      obtain ⟨r, _, rest⟩ := Option.bind_eq_some_iff.mp sends
      obtain rfl := Option.some.inj rest
      trivial
  | vezNaSolicitacao requestId quemFez =>
      obtain ⟨r, _, rest⟩ := Option.bind_eq_some_iff.mp sends
      dsimp only at rest
      split at rest
      · cases rest
      · obtain rfl := Option.some.inj rest
        dsimp only
        split
        · trivial
        · exact (Option.toList_nodup _)
  | respostaDaSolicitacao requestId quemFez =>
      obtain ⟨r, _, rest⟩ := Option.bind_eq_some_iff.mp sends
      obtain ⟨titulo, _, rest⟩ := Option.bind_eq_some_iff.mp rest
      obtain rfl := Option.some.inj rest
      exact List.nodup_singleton r.requesterId
  | noticia newsId =>
      obtain ⟨n, _, rest⟩ := Option.bind_eq_some_iff.mp sends
      obtain ⟨churchId, _, rest⟩ := Option.bind_eq_some_iff.mp rest
      obtain ⟨publishedAt, _, rest⟩ := Option.bind_eq_some_iff.mp rest
      obtain rfl := Option.some.inj rest
      trivial
  | evento eventId quemFez =>
      obtain ⟨e, _, rest⟩ := Option.bind_eq_some_iff.mp sends
      split at rest
      · cases rest
      · split at rest
        · cases rest
        · obtain rfl := Option.some.inj rest
          trivial
  | eventosDaIgreja churchId => cases sends

/-! ### The invariant -/

/-- The tables. -/
structure Tabelas (s : Sininho) : Prop where
  chaves : Keyed Notification.id s.nextId s.notifications
  uma : (s.notifications.map fun n => n.aviso.origem).Nodup
  destinatarios : (s.recipients.map NotificationRecipient.chave).Nodup
  de : ∀ r ∈ s.recipients, ∃ n ∈ s.notifications, n.id = r.notificationId
  pessoas : ∀ r ∈ s.recipients, (s.mundo.pessoa? r.userId).isSome
  passado : ∀ n ∈ s.notifications, n.createdAt ≤ s.agora

/-- The dispatches under way. -/
structure Prontos (s : Sininho) : Prop where
  publico : ∀ d ∈ s.disparos, ∀ envio, d.fase = .lerPublico envio → NomeadosUmaVez envio.publico
  criar : ∀ d ∈ s.disparos, ∀ envio para, d.fase = .criar envio para → Pronto envio para

/-- What was written so far. -/
structure Historia (s : Sininho) : Prop where
  a_quem : ∀ c ∈ s.criadas, Pronto c.envio c.para
  passado : ∀ c ∈ s.criadas, c.quando ≤ s.agora
  por_ano : s.criadas.Pairwise fun a b =>
    a.envio.aviso.origem = b.envio.aviso.origem → ¬ s.Recente a b.quando
  /-- a recent source still has its notice, that is not older -/
  lembra : ∀ c ∈ s.criadas, s.Recente c s.agora →
    ∃ n ∈ s.notifications, n.aviso.origem = c.envio.aviso.origem ∧ c.quando ≤ n.createdAt
  guardadas : s.Guardadas
  /-- a recipient is as old as its notice -/
  das_criadas : ∀ c ∈ s.criadas, ∀ r ∈ s.recipients, r.notificationId = c.id →
    r.createdAt = c.quando
  /-- what a recipient says of its reading is what was done -/
  das_lidas : ∀ r ∈ s.recipients, ∀ lida,
    r.readAt = some lida ↔ (⟨r.chave, lida⟩ : LeituraDoAviso) ∈ s.lidas
  novas : ∀ c ∈ s.criadas, c.id < s.nextId
  lidas_antes : ∀ l ∈ s.lidas, l.chave.1 < s.nextId

structure EmDia (s : Sininho) : Prop extends Tabelas s, Prontos s where
  historia : s.Historia

/-! ### What a dispatch changes -/

/-- The same tables, with other dispatches and other errors in the log. -/
def comDisparos (s : Sininho) (disparos : List Entrega) (erros : List Gatilho) : Sininho :=
  { s with disparos := disparos, erros := erros }

theorem Tabelas.comDisparos (tables : s.Tabelas) (ds : List Entrega) (es : List Gatilho) :
    (s.comDisparos ds es).Tabelas :=
  ⟨tables.chaves, tables.uma, tables.destinatarios, tables.de, tables.pessoas, tables.passado⟩

theorem Historia.comDisparos (past : s.Historia) (ds : List Entrega) (es : List Gatilho) :
    (s.comDisparos ds es).Historia :=
  ⟨past.a_quem, past.passado, past.por_ano, past.lembra, past.guardadas, past.das_criadas,
    past.das_lidas, past.novas, past.lidas_antes⟩

/-- A dispatch that moved to another phase. -/
theorem Prontos.mover (ready : s.Prontos) (i : Nat) {d : Entrega}
    (publico : ∀ envio, d.fase = .lerPublico envio → NomeadosUmaVez envio.publico)
    (criar : ∀ envio para, d.fase = .criar envio para → Pronto envio para) :
    (s.mover i d).Prontos where
  publico d' mem envio phase := by
    rcases List.mem_or_eq_of_mem_set mem with old | rfl
    · exact ready.publico d' old envio phase
    · exact publico envio phase
  criar d' mem envio para phase := by
    rcases List.mem_or_eq_of_mem_set mem with old | rfl
    · exact ready.criar d' old envio para phase
    · exact criar envio para phase

theorem Prontos.terminar (ready : s.Prontos) (i : Nat)
    (d : Entrega) : (s.terminar i d).Prontos := by
  unfold Sininho.terminar
  split
  · exact ready.mover i nofun nofun
  · exact ready.mover i nofun nofun

theorem terminar_eq (s : Sininho) (i : Nat) (d : Entrega) :
    ∃ ds, s.terminar i d = s.comDisparos ds s.erros := by
  unfold terminar
  split
  · exact ⟨_, rfl⟩
  · exact ⟨_, rfl⟩

theorem comPublico_eq (s : Sininho) (i : Nat) (d : Entrega) (envio : EnvioDoAviso)
    (userIds : List Id) :
    ∃ ds, s.comPublico i d envio userIds = s.comDisparos ds s.erros := by
  unfold comPublico
  dsimp only
  split
  · exact terminar_eq s i d
  · exact ⟨_, rfl⟩

theorem Prontos.comPublico (ready : s.Prontos) (i : Nat) (d : Entrega) {envio : EnvioDoAviso}
    {userIds : List Id} (once : userIds.Nodup) : (s.comPublico i d envio userIds).Prontos := by
  unfold Sininho.comPublico
  dsimp only
  split
  · exact ready.terminar i d
  · rename_i somebody
    refine ready.mover i nofun fun envio' para phase => ?_
    cases phase
    exact ⟨somebody, once.filter _, fun id mem => by simpa using (List.mem_filter.mp mem).2⟩

/-- What is written when the database takes a notice. -/
def comAviso (s : Sininho) (envio : EnvioDoAviso) (para : List Id) : Sininho :=
  { s with
    notifications := s.notifications ++ [⟨s.nextId, envio.aviso, s.agora⟩]
    recipients := s.recipients ++ para.map fun userId => ⟨s.nextId, userId, none, s.agora⟩
    nextId := s.nextId + 1
    criadas := s.criadas ++ [⟨s.nextId, envio, para, s.agora⟩] }

/-- The four ways a `create` goes. -/
theorem criar_cases (s : Sininho) (envio : EnvioDoAviso) (para : List Id) :
    (s.criar envio para = .error .chaveRepetida ∧
      ((∃ n ∈ s.notifications, n.aviso.origem = envio.aviso.origem) ∨ ¬ para.Nodup)) ∨
    (s.criar envio para = .error .semReferencia ∧
      (s.mundo.igreja? envio.aviso.churchId = none ∨
        ∃ userId ∈ para, s.mundo.pessoa? userId = none)) ∨
    (s.criar envio para = .ok (s.comAviso envio para) ∧
      (∀ n ∈ s.notifications, n.aviso.origem ≠ envio.aviso.origem) ∧
      (∀ userId ∈ para, (s.mundo.pessoa? userId).isSome)) := by
  unfold criar
  split
  · rename_i known
    simp only [List.any_eq_true, decide_eq_true_eq] at known
    exact .inl ⟨rfl, .inl known⟩
  · rename_i fresh
    simp only [List.any_eq_true, decide_eq_true_eq, not_exists, not_and] at fresh
    split
    · rename_i church
      exact .inr (.inl ⟨rfl, .inl (Option.isNone_iff_eq_none.mp church)⟩)
    · split
      · rename_i twice
        exact .inl ⟨rfl, .inr twice⟩
      · split
        · rename_i gone
          simp only [List.any_eq_true, Option.isNone_iff_eq_none] at gone
          exact .inr (.inl ⟨rfl, .inr gone⟩)
        · rename_i here
          simp only [List.any_eq_true, not_exists, not_and, Bool.not_eq_true,
            Option.isNone_eq_false_iff] at here
          exact .inr (.inr ⟨rfl, fresh, here⟩)

/-- What a statement of a dispatch does: the tables stay, or it wrote a notice that was ready. -/
theorem seguir_cases (ready : s.Prontos) (i : Nat) :
    (∃ ds es, s.seguir i = s.comDisparos ds es ∧ (s.comDisparos ds es).Prontos) ∨
    ∃ d envio para ds, s.disparos[i]? = some d ∧ d.fase = .criar envio para ∧
      s.criar envio para = .ok (s.comAviso envio para) ∧
      s.seguir i = (s.comAviso envio para).comDisparos ds s.erros ∧
      ((s.comAviso envio para).comDisparos ds s.erros).Prontos := by
  have ends (d : Entrega) : ∃ ds es, s.terminar i d = s.comDisparos ds es ∧
      (s.comDisparos ds es).Prontos := by
    obtain ⟨ds, eq⟩ := terminar_eq s i d
    exact ⟨ds, s.erros, eq, eq ▸ ready.terminar i d⟩
  unfold seguir
  cases found : s.disparos[i]? with
  | none => exact .inl ⟨s.disparos, s.erros, rfl, ready⟩
  | some d =>
      have mem := List.mem_of_getElem? found
      dsimp only
      split
      · -- the first read
        split
        · exact .inl (ends _)
        · split
          · exact .inl (ends d)
          · rename_i envio sends
            have once := nomeados_pedido sends
            split
            · rename_i userIds named
              rw [named] at once
              obtain ⟨ds, eq⟩ := comPublico_eq s i d envio userIds
              exact .inl ⟨ds, s.erros, eq, eq ▸ ready.comPublico i d once⟩
            · refine .inl ⟨s.disparos.set i { d with fase := .lerPublico envio }, s.erros, rfl,
                ready.mover i (fun envio' phase => ?_) nofun⟩
              cases phase
              exact once
      · rename_i envio phase
        obtain ⟨ds, eq⟩ := comPublico_eq s i d envio (envio.publico.ler s.mundo)
        exact .inl ⟨ds, s.erros, eq,
          eq ▸ ready.comPublico i d (nodup_ler s.mundo (ready.publico d mem envio phase))⟩
      · rename_i envio para phase
        unfold notificar
        rcases criar_cases s envio para with ⟨eq, _⟩ | ⟨eq, _⟩ | ⟨eq, _⟩ <;> rw [eq] <;> dsimp only
        · exact .inl (ends d)
        · obtain ⟨ds, ended⟩ := terminar_eq (s.registrar d.pedido) i d
          have logged : (s.registrar d.pedido).Prontos := ⟨ready.publico, ready.criar⟩
          exact .inl ⟨ds, s.erros ++ [d.pedido], ended, ended ▸ logged.terminar i d⟩
        · obtain ⟨ds, ended⟩ := terminar_eq (s.comAviso envio para) i d
          have written : (s.comAviso envio para).Prontos := ⟨ready.publico, ready.criar⟩
          exact .inr ⟨d, envio, para, ds, rfl, phase, eq, ended, ended ▸ written.terminar i d⟩
      · exact .inl ⟨s.disparos, s.erros, rfl, ready⟩

/-! ### A notice is written -/

theorem Tabelas.comAviso (tables : s.Tabelas) (ready : Pronto envio para)
    (fresh : ∀ n ∈ s.notifications, n.aviso.origem ≠ envio.aviso.origem)
    (here : ∀ userId ∈ para, (s.mundo.pessoa? userId).isSome) :
    (s.comAviso envio para).Tabelas where
  chaves := tables.chaves.append_fresh rfl
  uma := by
    show ((s.notifications ++ [_]).map _).Nodup
    rw [List.map_append, List.nodup_append]
    refine ⟨tables.uma, List.nodup_singleton _, ?_⟩
    rintro _ mem _ new rfl
    obtain ⟨n, old, same⟩ := List.mem_map.mp mem
    exact fresh n old (same.trans (List.mem_singleton.mp new))
  destinatarios := by
    show ((s.recipients ++ para.map _).map _).Nodup
    rw [List.map_append, List.map_map, List.nodup_append]
    refine ⟨tables.destinatarios, ready.uma_vez.map fun a b same => (Prod.mk.inj same).2, ?_⟩
    rintro _ mem _ new rfl
    obtain ⟨r, old, same⟩ := List.mem_map.mp mem
    obtain ⟨userId, _, key⟩ := List.mem_map.mp new
    obtain ⟨n, known, id⟩ := tables.de r old
    have older := tables.chaves.lt_next n known
    rw [id, show r.notificationId = s.nextId from congrArg Prod.fst (same.trans key.symm)] at older
    exact absurd older (lt_irrefl _)
  de r mem := by
    rcases List.mem_append.mp mem with old | new
    · obtain ⟨n, known, id⟩ := tables.de r old
      exact ⟨n, List.mem_append_left _ known, id⟩
    · obtain ⟨userId, _, rfl⟩ := List.mem_map.mp new
      exact ⟨_, List.mem_append_right _ (List.mem_singleton_self _), rfl⟩
  pessoas r mem := by
    rcases List.mem_append.mp mem with old | new
    · exact tables.pessoas r old
    · obtain ⟨userId, one, rfl⟩ := List.mem_map.mp new
      exact here userId one
  passado n mem := by
    rcases List.mem_append.mp mem with old | new
    · exact tables.passado n old
    · rw [List.mem_singleton.mp new]
      exact le_refl _

theorem Historia.comAviso (tables : s.Tabelas) (past : s.Historia) (ready : Pronto envio para)
    (fresh : ∀ n ∈ s.notifications, n.aviso.origem ≠ envio.aviso.origem) :
    (s.comAviso envio para).Historia := by
  -- a case for the notices of before and one for this one, in every law
  have cases_criada : ∀ c ∈ (s.comAviso envio para).criadas,
      c ∈ s.criadas ∨ c = ⟨s.nextId, envio, para, s.agora⟩ := fun c mem =>
    (List.mem_append.mp mem).imp id List.mem_singleton.mp
  refine ⟨fun c mem => ?_, fun c mem => ?_, ?_, fun c mem recent => ?_,
    fun c mem userId sent kept now => ?_, fun c mem r row of => ?_, fun r row lida => ?_,
    fun c mem => ?_, fun l mem => Nat.lt_succ_of_lt (past.lidas_antes l mem)⟩
  · rcases cases_criada c mem with old | rfl
    · exact past.a_quem c old
    · exact ready
  · rcases cases_criada c mem with old | rfl
    · exact past.passado c old
    · exact le_refl _
  · show (s.criadas ++ [_]).Pairwise _
    rw [List.pairwise_append]
    refine ⟨past.por_ano, List.pairwise_singleton _ _, fun c old c' new same recent => ?_⟩
    obtain rfl := List.mem_singleton.mp new
    obtain ⟨n, known, origin, _⟩ := past.lembra c old recent
    exact fresh n known (origin.trans same)
  · rcases cases_criada c mem with old | rfl
    · obtain ⟨n, known, rest⟩ := past.lembra c old recent
      exact ⟨n, List.mem_append_left _ known, rest⟩
    · exact ⟨_, List.mem_append_right _ (List.mem_singleton_self _), rfl, le_refl _⟩
  · rcases cases_criada c mem with old | rfl
    · obtain ⟨r, row, key⟩ := past.guardadas c old userId sent kept now
      exact ⟨r, List.mem_append_left _ row, key⟩
    · exact ⟨_, List.mem_append_right _ (List.mem_map_of_mem sent), rfl⟩
  · rcases List.mem_append.mp row with older | new
    · rcases cases_criada c mem with old | rfl
      · exact past.das_criadas c old r older of
      · obtain ⟨n, known, id⟩ := tables.de r older
        exact absurd (tables.chaves.lt_next n known) (by rw [id, of]; exact lt_irrefl _)
    · obtain ⟨userId, _, rfl⟩ := List.mem_map.mp new
      rcases cases_criada c mem with old | rfl
      · exact absurd (past.novas c old) (by rw [← of]; exact lt_irrefl _)
      · rfl
  · rcases List.mem_append.mp row with older | new
    · exact past.das_lidas r older lida
    · obtain ⟨userId, _, rfl⟩ := List.mem_map.mp new
      refine ⟨nofun, fun read => ?_⟩
      exact absurd (past.lidas_antes _ read) (lt_irrefl _)
  · rcases cases_criada c mem with old | rfl
    · exact Nat.lt_succ_of_lt (past.novas c old)
    · exact Nat.lt_succ_self _

/-! ### Recipients that leave -/

theorem Tabelas.semDestinatarios (tables : s.Tabelas) (stay : NotificationRecipient → Bool)
    (other : s'.notifications = s.notifications ∧ s'.nextId = s.nextId ∧ s'.mundo = s.mundo ∧
      s'.agora = s.agora) (left : s'.recipients = s.recipients.filter stay) : s'.Tabelas := by
  obtain ⟨same, counter, world, clock⟩ := other
  exact {
    chaves := same ▸ counter ▸ tables.chaves
    uma := same ▸ tables.uma
    destinatarios := left ▸ tables.destinatarios.sublist (List.filter_sublist.map _)
    de := fun r mem => same ▸ tables.de r (List.mem_of_mem_filter (left ▸ mem))
    pessoas := fun r mem => world ▸ tables.pessoas r (List.mem_of_mem_filter (left ▸ mem))
    passado := same ▸ clock ▸ tables.passado }

theorem Tabelas.retirar (tables : s.Tabelas) (quem : NotificationRecipient → Bool) :
    (s.retirar quem).Tabelas :=
  tables.semDestinatarios (fun r => !quem r) ⟨rfl, rfl, rfl, rfl⟩ rfl

theorem Historia.retirar (past : s.Historia) (quem : NotificationRecipient → Bool) :
    (s.retirar quem).Historia where
  a_quem := past.a_quem
  passado := past.passado
  por_ano := past.por_ano
  lembra := past.lembra
  guardadas c mem userId sent kept now := by
    have kept_before := fun h => kept (List.mem_append_left _ h)
    obtain ⟨r, row, key⟩ := past.guardadas c mem userId sent kept_before now
    refine ⟨r, List.mem_filter.mpr ⟨row, ?_⟩, key⟩
    by_contra taken
    refine kept (List.mem_append_right _ (List.mem_map.mpr ⟨r, List.mem_filter.mpr ⟨row, ?_⟩, key⟩))
    simpa using taken
  das_criadas c mem r row := past.das_criadas c mem r (List.mem_of_mem_filter row)
  das_lidas r row := past.das_lidas r (List.mem_of_mem_filter row)
  novas := past.novas
  lidas_antes := past.lidas_antes

theorem Tabelas.limparDestinatarios (tables : s.Tabelas) : s.limparDestinatarios.Tabelas :=
  tables.semDestinatarios (fun r => !s.vencido r) ⟨rfl, rfl, rfl, rfl⟩ rfl

theorem Historia.limparDestinatarios (past : s.Historia) : s.limparDestinatarios.Historia where
  a_quem := past.a_quem
  passado := past.passado
  por_ano := past.por_ano
  lembra := past.lembra
  guardadas c mem userId sent kept now := by
    obtain ⟨r, row, key⟩ := past.guardadas c mem userId sent kept now
    refine ⟨r, List.mem_filter.mpr ⟨row, ?_⟩, key⟩
    have written := past.das_criadas c mem r row (Prod.mk.inj key).1
    have read := past.das_lidas r row
    rw [key] at read
    rw [Bool.not_eq_true']
    unfold vencido
    rcases now with ⟨l, marked, of, soon⟩ | ⟨unread, soon⟩
    · have seen : r.readAt = some l.quando := (read l.quando).mpr (of ▸ marked)
      rw [seen]
      exact decide_eq_false (not_lt.mpr soon)
    · have unseen : r.readAt = none := Option.eq_none_iff_forall_not_mem.mpr fun lida seen =>
        unread _ ((read lida).mp seen) rfl
      rw [unseen]
      exact decide_eq_false (not_lt.mpr (written ▸ soon))
  das_criadas c mem r row := past.das_criadas c mem r (List.mem_of_mem_filter row)
  das_lidas r row := past.das_lidas r (List.mem_of_mem_filter row)
  novas := past.novas
  lidas_antes := past.lidas_antes

/-! ### Notices that leave -/

theorem Tabelas.limparOrigens (tables : s.Tabelas) : s.limparOrigens.Tabelas where
  chaves := tables.chaves.filter _
  uma := tables.uma.sublist (List.filter_sublist.map _)
  destinatarios := tables.destinatarios
  de r mem := by
    obtain ⟨n, known, id⟩ := tables.de r mem
    refine ⟨n, List.mem_filter.mpr ⟨known, ?_⟩, id⟩
    rw [Bool.not_eq_true', orfa, Bool.and_eq_false_iff]
    refine .inr (Bool.eq_false_iff.mpr fun alone => ?_)
    exact absurd id.symm (by simpa using List.all_eq_true.mp alone r mem)
  pessoas := tables.pessoas
  passado n mem := tables.passado n (List.mem_of_mem_filter mem)

theorem Historia.limparOrigens (past : s.Historia) : s.limparOrigens.Historia where
  a_quem := past.a_quem
  passado := past.passado
  por_ano := past.por_ano
  lembra c mem recent := by
    obtain ⟨n, known, origin, newer⟩ := past.lembra c mem recent
    refine ⟨n, List.mem_filter.mpr ⟨known, ?_⟩, origin, newer⟩
    rw [Bool.not_eq_true', orfa, Bool.and_eq_false_iff]
    have young : s.agora ≤ c.quando + dias 365 := recent.2
    exact .inl (decide_eq_false (not_lt.mpr (young.trans (Nat.add_le_add_right newer _))))
  guardadas := past.guardadas
  das_criadas := past.das_criadas
  das_lidas := past.das_lidas
  novas := past.novas
  lidas_antes := past.lidas_antes

/-- What is recent after more was forgotten, or later, was recent before. -/
theorem Recente.antes {c : Criada} {quando depois : Instant} (recent : s'.Recente c depois)
    (forgotten : ∀ o ∈ s.esquecidas, o ∈ s'.esquecidas) (le : quando ≤ depois) :
    s.Recente c quando :=
  ⟨fun mem => recent.1 (forgotten _ mem), le.trans recent.2⟩

theorem Tabelas.excluirIgreja (tables : s.Tabelas) (churchId : Id) :
    (s.excluirIgreja churchId).Tabelas where
  chaves := tables.chaves.filter _
  uma := tables.uma.sublist (List.filter_sublist.map _)
  destinatarios := tables.destinatarios.sublist (List.filter_sublist.map _)
  de r mem := by
    obtain ⟨row, stays⟩ := List.mem_filter.mp mem
    obtain ⟨n, known, id⟩ := tables.de r row
    refine ⟨n, List.mem_filter.mpr ⟨known, decide_eq_true fun gone => ?_⟩, id⟩
    rw [Bool.not_eq_true', decide_eq_false_iff_not] at stays
    exact stays (List.mem_map.mpr ⟨n, List.mem_filter.mpr ⟨known, decide_eq_true gone⟩, id⟩)
  pessoas r mem := tables.pessoas r (List.mem_of_mem_filter mem)
  passado n mem := tables.passado n (List.mem_of_mem_filter mem)

theorem Historia.excluirIgreja (past : s.Historia) (churchId : Id) :
    (s.excluirIgreja churchId).Historia := by
  have left := past.retirar fun r => r.notificationId ∈
    (s.notifications.filter fun n => n.aviso.churchId = churchId).map Notification.id
  have forgotten : ∀ o ∈ s.esquecidas, o ∈ (s.excluirIgreja churchId).esquecidas := fun o mem =>
    List.mem_append_left _ mem
  exact {
    a_quem := left.a_quem
    passado := left.passado
    por_ano := left.por_ano.imp fun apart same recent =>
      apart same (recent.antes forgotten (le_refl _))
    lembra := fun c mem recent => by
      obtain ⟨n, known, origin, newer⟩ := past.lembra c mem (recent.antes forgotten (le_refl _))
      refine ⟨n, List.mem_filter.mpr ⟨known, decide_eq_true fun gone => ?_⟩, origin, newer⟩
      refine recent.1 (List.mem_append_right _ (List.mem_map.mpr ⟨n, ?_, origin⟩))
      exact List.mem_filter.mpr ⟨known, decide_eq_true gone⟩
    guardadas := left.guardadas
    das_criadas := left.das_criadas
    das_lidas := left.das_lidas
    novas := left.novas
    lidas_antes := left.lidas_antes }

/-- What is in time later was in time before. -/
theorem NoPrazo.antes {chave : Id × Id} {quando : Instant} (now : s'.NoPrazo chave quando)
    (read : s'.lidas = s.lidas) (le : s.agora ≤ s'.agora) : s.NoPrazo chave quando := by
  rcases now with ⟨l, marked, of, soon⟩ | ⟨unread, soon⟩
  · exact .inl ⟨l, read ▸ marked, of, le.trans soon⟩
  · exact .inr ⟨read ▸ unread, le.trans soon⟩

/-! ### The other events -/

theorem Tabelas.passar (tables : s.Tabelas) (tempo : Nat) :
    ({ s with agora := s.agora + tempo } : Sininho).Tabelas :=
  ⟨tables.chaves, tables.uma, tables.destinatarios, tables.de, tables.pessoas, fun n mem =>
    (tables.passado n mem).trans (Nat.le_add_right _ _)⟩

theorem Historia.passar (past : s.Historia) (tempo : Nat) :
    ({ s with agora := s.agora + tempo } : Sininho).Historia where
  a_quem := past.a_quem
  passado c mem := (past.passado c mem).trans (Nat.le_add_right _ _)
  por_ano := past.por_ano
  lembra c mem recent :=
    past.lembra c mem (recent.antes (fun _ mem => mem) (Nat.le_add_right _ _))
  guardadas c mem userId sent kept now :=
    past.guardadas c mem userId sent kept (now.antes rfl (Nat.le_add_right _ _))
  das_criadas := past.das_criadas
  das_lidas := past.das_lidas
  novas := past.novas
  lidas_antes := past.lidas_antes

theorem Tabelas.mudar (tables : s.Tabelas) (m : Mundo) : (s.mudar m).Tabelas := by
  unfold Sininho.mudar
  split
  · have left := tables.retirar fun r => (m.pessoa? r.userId).isNone
    refine ⟨left.chaves, left.uma, left.destinatarios, left.de, fun r mem => ?_, left.passado⟩
    simpa using (List.mem_filter.mp mem).2
  · exact tables

theorem Historia.mudar (past : s.Historia) (m : Mundo) : (s.mudar m).Historia := by
  unfold Sininho.mudar
  split
  · have left := past.retirar fun r => (m.pessoa? r.userId).isNone
    exact ⟨left.a_quem, left.passado, left.por_ano, left.lembra, left.guardadas, left.das_criadas,
      left.das_lidas, left.novas, left.lidas_antes⟩
  · exact past

/-- What `marcarLidas` does to one recipient. -/
def marcado (s : Sininho) (userId : Id) (ids : Option (List Id)) (r : NotificationRecipient) :
    NotificationRecipient :=
  if r.userId = userId && r.readAt.isNone && ids.all fun ids => r.notificationId ∈ ids then
    { r with readAt := some s.agora }
  else r

theorem chave_marcado (userId : Id) (ids : Option (List Id)) (r : NotificationRecipient) :
    (s.marcado userId ids r).chave = r.chave := by
  unfold marcado
  split <;> rfl

theorem Tabelas.marcarLidas (tables : s.Tabelas) (userId : Id) (ids : Option (List Id)) :
    (s.marcarLidas userId ids).Tabelas where
  chaves := tables.chaves
  uma := tables.uma
  destinatarios := by
    show ((s.recipients.map (s.marcado userId ids)).map _).Nodup
    rw [List.map_map]
    refine (List.map_congr_left fun r _ => ?_) ▸ tables.destinatarios
    exact (chave_marcado userId ids r).symm
  de r mem := by
    obtain ⟨old, row, rfl⟩ := List.mem_map.mp mem
    have of := congrArg Prod.fst (chave_marcado (s := s) userId ids old)
    obtain ⟨n, known, id⟩ := tables.de old row
    exact ⟨n, known, id.trans of.symm⟩
  pessoas r mem := by
    obtain ⟨old, row, rfl⟩ := List.mem_map.mp mem
    have who := congrArg Prod.snd (chave_marcado (s := s) userId ids old)
    have here := tables.pessoas old row
    rw [← show (s.marcado userId ids old).userId = old.userId from who] at here
    exact here
  passado := tables.passado

theorem Historia.marcarLidas (tables : s.Tabelas) (past : s.Historia) (userId : Id)
    (ids : Option (List Id)) : (s.marcarLidas userId ids).Historia := by
  let marcada := fun r : NotificationRecipient =>
    r.userId = userId && r.readAt.isNone && ids.all fun ids => r.notificationId ∈ ids
  -- the readings of this call are of rows that were unread, at this instant
  have cases_lida : ∀ l ∈ (s.marcarLidas userId ids).lidas, l ∈ s.lidas ∨
      ∃ r ∈ s.recipients, marcada r ∧ (⟨r.chave, s.agora⟩ : LeituraDoAviso) = l := by
    intro l mem
    refine (List.mem_append.mp mem).imp id fun new => ?_
    obtain ⟨r, marked, eq⟩ := List.mem_map.mp new
    exact ⟨r, (List.mem_filter.mp marked).1, (List.mem_filter.mp marked).2, eq⟩
  refine ⟨past.a_quem, past.passado, past.por_ano, past.lembra, fun c mem who sent kept now => ?_,
    fun c mem r row of => ?_, fun r row lida => ?_, past.novas, fun l mem => ?_⟩
  · obtain ⟨r, row, key⟩ : ∃ r ∈ s.recipients, r.chave = (c.id, who) := by
      rcases now with ⟨l, marked, of, soon⟩ | ⟨unread, soon⟩
      · rcases cases_lida l marked with old | ⟨r, row, _, rfl⟩
        · exact past.guardadas c mem who sent kept (.inl ⟨l, old, of, soon⟩)
        · exact ⟨r, row, of⟩
      · exact past.guardadas c mem who sent kept
          (.inr ⟨fun l old => unread l (List.mem_append_left _ old), soon⟩)
    exact ⟨s.marcado userId ids r, List.mem_map_of_mem row, (chave_marcado userId ids r).trans key⟩
  · obtain ⟨old, older, rfl⟩ := List.mem_map.mp row
    split at of
    · rename_i marked
      rw [if_pos marked]
      exact past.das_criadas c mem old older of
    · rename_i unmarked
      rw [if_neg unmarked]
      exact past.das_criadas c mem old older of
  · obtain ⟨old, older, rfl⟩ := List.mem_map.mp row
    have before := past.das_lidas old older
    by_cases marked : marcada old
    · have unread : old.readAt = none := by
        simp only [marcada, Bool.and_eq_true, Option.isNone_iff_eq_none] at marked
        exact marked.1.2
      rw [if_pos marked]
      refine ⟨fun seen => ?_, fun read => ?_⟩
      · obtain rfl := Option.some.inj seen
        exact List.mem_append_right _ (List.mem_map.mpr ⟨old, List.mem_filter.mpr ⟨older, marked⟩,
          rfl⟩)
      · rcases cases_lida _ read with earlier | ⟨r, _, _, eq⟩
        · have seen := (before lida).mpr earlier
          rw [unread] at seen
          cases seen
        · exact congrArg some (congrArg LeituraDoAviso.quando eq)
    · rw [if_neg marked]
      refine (before lida).trans ⟨fun read => List.mem_append_left _ read, fun read => ?_⟩
      rcases cases_lida _ read with earlier | ⟨r, row', now, eq⟩
      · exact earlier
      · -- the key is of one row only, and that one was not marked
        have same := List.inj_on_of_nodup_map tables.destinatarios row' older
          (congrArg LeituraDoAviso.chave eq)
        exact absurd (same ▸ now) marked
  · rcases cases_lida l mem with old | ⟨r, row, _, rfl⟩
    · exact past.lidas_antes l old
    · obtain ⟨n, known, of⟩ := tables.de r row
      have older := tables.chaves.lt_next n known
      rw [of] at older
      exact older

/-! ### Whole runs -/

theorem EmDia.agir (kept : s.EmDia) (a : Acao) : (s.agir a).EmDia := by
  obtain ⟨tables, ready, past⟩ := kept
  cases a with
  | passar tempo => exact ⟨tables.passar tempo, ⟨ready.publico, ready.criar⟩, past.passar tempo⟩
  | comecar pedido =>
      refine ⟨tables.comDisparos _ s.erros, ⟨fun d mem => ?_, fun d mem => ?_⟩,
        past.comDisparos _ s.erros⟩
      · rcases List.mem_append.mp mem with old | new
        · exact ready.publico d old
        · rw [List.mem_singleton.mp new]
          exact nofun
      · rcases List.mem_append.mp mem with old | new
        · exact ready.criar d old
        · rw [List.mem_singleton.mp new]
          exact nofun
  | seguir i =>
      show (s.seguir i).EmDia
      rcases seguir_cases ready i with ⟨ds, es, eq, after⟩ | ⟨d, envio, para, ds, found, phase, ok,
          eq, after⟩
      · rw [eq]
        exact ⟨tables.comDisparos ds es, after, past.comDisparos ds es⟩
      · have set := ready.criar d (List.mem_of_getElem? found) envio para phase
        rcases criar_cases s envio para with ⟨no, _⟩ | ⟨no, _⟩ | ⟨_, fresh, here⟩
        · rw [ok] at no
          cases no
        · rw [ok] at no
          cases no
        · rw [eq]
          exact ⟨(tables.comAviso set fresh here).comDisparos ds s.erros, after,
            (past.comAviso tables set fresh).comDisparos ds s.erros⟩
  | falhar i =>
      show (s.falhar i).EmDia
      unfold falhar
      split
      · exact ⟨tables, ready, past⟩
      · rename_i d found
        split
        · exact ⟨tables, ready, past⟩
        · obtain ⟨ds, eq⟩ := terminar_eq (s.registrar d.pedido) i d
          have logged : (s.registrar d.pedido).Prontos := ⟨ready.publico, ready.criar⟩
          have after := logged.terminar i d
          rw [eq] at after ⊢
          exact ⟨tables.comDisparos ds (s.erros ++ [d.pedido]), after,
            past.comDisparos ds (s.erros ++ [d.pedido])⟩
  | encerrarPedidoDeMembro userId =>
      exact ⟨tables.retirar _, ⟨ready.publico, ready.criar⟩, past.retirar _⟩
  | marcarLidas userId ids =>
      exact ⟨tables.marcarLidas userId ids, ⟨ready.publico, ready.criar⟩,
        past.marcarLidas tables userId ids⟩
  | limparDestinatarios =>
      exact ⟨tables.limparDestinatarios, ⟨ready.publico, ready.criar⟩, past.limparDestinatarios⟩
  | limparOrigens =>
      exact ⟨tables.limparOrigens, ⟨ready.publico, ready.criar⟩, past.limparOrigens⟩
  | mudar m =>
      have same : (s.mudar m).disparos = s.disparos := by
        unfold Sininho.mudar
        split <;> rfl
      exact ⟨tables.mudar m, ⟨same ▸ ready.publico, same ▸ ready.criar⟩, past.mudar m⟩
  | excluirIgreja churchId =>
      exact ⟨tables.excluirIgreja churchId, ⟨ready.publico, ready.criar⟩,
        past.excluirIgreja churchId⟩

theorem historia_vazio (m : Mundo) (agora : Instant) : (vazio m agora).Historia := by
  have nothing : (vazio m agora).criadas = [] := rfl
  have nobody : (vazio m agora).recipients = [] := rfl
  have unread : (vazio m agora).lidas = [] := rfl
  constructor
  all_goals simp only [Guardadas, nothing, nobody, unread, List.Pairwise.nil, List.not_mem_nil,
    false_imp_iff, implies_true]

theorem emDia_vazio (m : Mundo) (agora : Instant) : (vazio m agora).EmDia where
  chaves := Keyed.nil
  uma := List.nodup_nil
  destinatarios := List.nodup_nil
  de := fun _ mem => absurd mem List.not_mem_nil
  pessoas := fun _ mem => absurd mem List.not_mem_nil
  passado := fun _ mem => absurd mem List.not_mem_nil
  publico := fun _ mem => absurd mem List.not_mem_nil
  criar := fun _ mem => absurd mem List.not_mem_nil
  historia := historia_vazio m agora

theorem emDia_run (m : Mundo) (agora : Instant) (acoes : List Sininho.Acao) :
    Always agir EmDia (vazio m agora) acoes :=
  always_of_step (fun _ a kept => kept.agir a) (emDia_vazio m agora) acoes

/-- The bell lists the last thirty of a person: no recipient is without its notification. -/
theorem length_listar (tables : s.Tabelas) (userId : Id) :
    (s.listar userId).length = min limite (s.recipients.countP fun r => r.userId = userId) := by
  have joined : ∀ r ∈ (((s.recipients.filter fun r => r.userId = userId).mergeSort
      fun a b => decide (b.createdAt ≤ a.createdAt)).take limite),
      ((lookup Notification.id r.notificationId s.notifications).map fun n =>
        (n, r.readAt.isSome)).isSome := by
    intro r mem
    have row := List.mem_of_mem_filter (List.mem_mergeSort.mp (List.mem_of_mem_take mem))
    obtain ⟨n, known, id⟩ := tables.de r row
    rw [Option.isSome_map, ← id]
    exact lookup_isSome_of_mem Notification.id known
  rw [listar, List.length_filterMap_eq_countP, List.countP_eq_length.mpr joined, List.length_take,
    List.length_mergeSort, List.countP_eq_length_filter]

theorem contarNaoLidas_marcarLidas (s : Sininho) (userId : Id) :
    (s.marcarLidas userId none).contarNaoLidas userId = 0 := by
  refine List.countP_eq_zero.mpr fun r mem => ?_
  obtain ⟨old, _, rfl⟩ := List.mem_map.mp mem
  by_cases mine : old.userId = userId <;> cases read : old.readAt <;> simp [mine, read]

theorem sinoCerto (tables : s.Tabelas) : s.SinoCerto :=
  ⟨length_listar tables, contarNaoLidas_marcarLidas s⟩

/-- The last statement of a dispatch, from a state in order. -/
theorem entregaOuRegistra (kept : s.EmDia) (a : Acao) : s.EntregaOuRegistra a := by
  rintro i d envio para rfl found phase
  have ready := kept.criar d (List.mem_of_getElem? found) envio para phase
  have moved : s.agir (.seguir i) = s.notificar i d envio para := by
    simp only [agir, seguir, found, phase]
  rw [moved, notificar]
  rcases criar_cases s envio para with ⟨eq, known | twice⟩ | ⟨eq, gone⟩ | ⟨eq, _⟩ <;>
    rw [eq] <;> dsimp only
  · obtain ⟨n, mem, origin⟩ := known
    obtain ⟨ds, ended⟩ := terminar_eq s i d
    rw [ended]
    exact .inl ⟨n, mem, origin, .inl mem⟩
  · exact absurd ready.uma_vez twice
  · obtain ⟨ds, ended⟩ := terminar_eq (s.registrar d.pedido) i d
    rw [ended]
    exact .inr ⟨rfl, gone⟩
  · obtain ⟨ds, ended⟩ := terminar_eq (s.comAviso envio para) i d
    rw [ended]
    refine .inl ⟨⟨s.nextId, envio.aviso, s.agora⟩, ?_, rfl, .inr fun userId sent => ?_⟩
    · exact List.mem_append_right _ (List.mem_singleton_self _)
    · exact ⟨_, List.mem_append_right _ (List.mem_map_of_mem sent), rfl⟩

end Sininho

open Sininho

/-- In every interleaving of dispatches with whatever else is written, a source is notified once a
year at most, to at least one person, nobody twice and never who did it; and a dispatch that reaches
its `create` notifies all it was to notify, finds the source notified, or leaves its error in the
log with somebody gone: the repeated key it swallows is never a repeated recipient. -/
theorem uma_por_origem_run (m : Mundo) (agora : Instant) (acoes : List Sininho.Acao) :
    Always agir UmaPorOrigem (vazio m agora) acoes ∧
      EachStep agir EntregaOuRegistra (vazio m agora) acoes :=
  have kept := emDia_run m agora acoes
  ⟨kept.mono fun _ state => ⟨state.uma, state.historia.por_ano, state.historia.a_quem⟩,
    kept.eachStep fun _ a state => entregaOuRegistra state a⟩

end IccvBackend
