/-
Module: IccvBackend.Proofs.RevokedSecrets
Purpose: When a secret that a rotation has revoked stays out of use, with saves and rotations of a
  payment house in flight.
Trusted boundary: none
Main exports: Memoria, SemRotacaoNoMeio, RevogadosForaDeUso, segredosRevogados_run
-/
import IccvBackend.PaymentProviders.Calls
import IccvBackend.Proofs.ProviderConfigs
import IccvBackend.Lib.Tasks

namespace IccvBackend

open Lib

namespace CasasEmCurso

/-! ### What a run remembers -/

/-- The secret a call draws. -/
def Acao.sorteado? : Acao → Option String
  | .lerSalvar _ _ _ _ sorteado _ => some sorteado.val
  | .lerRotacao _ _ sorteado _ => some sorteado.val
  | .gravar _ => none

/-- The secrets drawn, each configuration with the hashes it has had, the configurations of the
rotations that have returned, what they revoked, and for each call, in order, the hashes on record
and the number of rotations at its read. -/
structure Memoria where
  sorteados : List String
  validos : List ((Id × PaymentProvider) × String)
  rotadas : List (Id × PaymentProvider)
  revogados : List ((Id × PaymentProvider) × String)
  vistos : List (List ((Id × PaymentProvider) × String) × Nat)

def Memoria.vazia : Memoria := ⟨[], [], [], [], []⟩

def emUso (s : CasasEmCurso) : List ((Id × PaymentProvider) × String) :=
  s.casas.configs.map fun c => (c.chave, c.webhookSecretHash)

/-- The configuration of a rotation that returns with its write, and what was valid before it
started. -/
def encerra? (m : Memoria) (s : CasasEmCurso) (s' : CasasEmCurso) :
    Acao → Option ((Id × PaymentProvider) × List ((Id × PaymentProvider) × String))
  | .gravar i =>
      match s.chamadas[i]?, s'.chamadas[i]? with
      | some (.rotacionarSegredo config _), some (.encerrada true) =>
          some (config.chave, ((m.vistos[i]?).map Prod.fst).getD [])
      | _, _ => none
  | _ => none

def registrar (m : Memoria) (s : CasasEmCurso) (acao : Acao) (s' : CasasEmCurso) : Memoria where
  sorteados := m.sorteados ++ acao.sorteado?.toList
  validos := m.validos ++ s'.emUso
  rotadas := m.rotadas ++ ((encerra? m s s' acao).map Prod.fst).toList
  revogados := m.revogados ++ (encerra? m s s' acao).toList.flatMap fun fim =>
    fim.2.filter fun valido => valido.1 = fim.1
  vistos := m.vistos ++ acao.sorteado?.toList.map fun _ => (m.validos, m.rotadas.length)

/-! ### The law and its condition -/

variable (cofre : CofreDeSegredos) (textos : TextosDoFormulario)

/-- No secret that a rotation has revoked is accepted. -/
def RevogadosForaDeUso (sm : CasasEmCurso × Memoria) : Prop :=
  ∀ revogado ∈ sm.2.revogados, ∀ segredo, cofre.hashDeWebhook segredo = revogado.2 →
    sm.1.casas.porSegredoDeWebhook cofre revogado.1.2 segredo = none

/-- The secret a call draws was not drawn before, and no rotation of a configuration returns between
the read and the write of a save that has read it. -/
structure SemRotacaoNoMeio (sm : CasasEmCurso × Memoria) (acao : Acao) : Prop where
  inedito : ∀ segredo, acao.sorteado? = some segredo → segredo ∉ sm.2.sorteados
  emDia : ∀ i churchId provider makeDefault config dados visto, acao = .gravar i →
    sm.1.chamadas[i]? = some (.salvar churchId provider makeDefault (some config) dados) →
      sm.2.vistos[i]? = some visto → (churchId, provider) ∉ sm.2.rotadas.drop visto.2

/-! ### The invariant -/

variable {cofre textos} {s s' : CasasEmCurso} {m : Memoria} {acao : Acao}

/-- What a call is about to seal opens on its hash in a row of the key. -/
def DadosSelados (cofre : CofreDeSegredos) (chave : Id × PaymentProvider) (dados : DadosDaCasa) :
    Prop :=
  ∀ c : CasaGravada, c.chave = chave → CasasDePagamento.Selada cofre { c with
    credentials := dados.credentials, webhookSecretHash := dados.webhookSecretHash }

/-- The hash that a call brings from its draw. -/
def traz? : ChamadaDaCasa → Option String
  | .salvar _ _ _ none dados => some dados.webhookSecretHash
  | .salvar _ _ _ (some _) _ => none
  | .rotacionarSegredo _ dados => some dados.webhookSecretHash
  | .encerrada _ => none

/-- The table, its keys and its envelopes. -/
structure Tabela (cofre : CofreDeSegredos) (db : CasasDePagamento) : Prop where
  chaves : (db.configs.map CasaGravada.chave).Nodup
  ids : Keyed CasaGravada.id db.nextId db.configs
  seladas : ∀ c ∈ db.configs, CasasDePagamento.Selada cofre c

/-- What is known of a call between its read and its write. -/
def Pendente (cofre : CofreDeSegredos) (db : CasasDePagamento) (m : Memoria)
    (visto : List ((Id × PaymentProvider) × String) × Nat) : ChamadaDaCasa → Prop
  | .salvar churchId provider _ none dados => DadosSelados cofre (churchId, provider) dados
  | .salvar churchId provider _ (some _) dados =>
      DadosSelados cofre (churchId, provider) dados ∧
        ((churchId, provider), dados.webhookSecretHash) ∈ m.validos ∧
        ((churchId, provider) ∉ m.rotadas.drop visto.2 →
          ((churchId, provider), dados.webhookSecretHash) ∉ m.revogados)
  | .rotacionarSegredo config dados =>
      DadosSelados cofre config.chave dados ∧ config.id < db.nextId ∧
        ∀ c ∈ db.configs, c.id = config.id → c.chave = config.chave
  | .encerrada _ => True

structure Vivo (cofre : CofreDeSegredos) (sm : CasasEmCurso × Memoria) : Prop where
  tabela : Tabela cofre sm.1.casas
  guardados : ∀ valido ∈ sm.1.emUso, valido ∈ sm.2.validos
  umDono : ∀ valido ∈ sm.2.validos, ∀ outro ∈ sm.2.validos, valido.2 = outro.2 → valido = outro
  sorteio : ∀ valido ∈ sm.2.validos, ∃ segredo ∈ sm.2.sorteados,
    valido.2 = cofre.hashDeWebhook segredo
  conhecidos : ∀ revogado ∈ sm.2.revogados, revogado ∈ sm.2.validos
  fora : ∀ revogado ∈ sm.2.revogados, ∀ valido ∈ sm.1.emUso, valido.2 ≠ revogado.2
  alinhado : sm.2.vistos.length = sm.1.chamadas.length
  vistos : ∀ visto ∈ sm.2.vistos, visto.2 ≤ sm.2.rotadas.length ∧
    ∀ valido ∈ visto.1, valido ∈ sm.2.validos
  pendentes : ∀ (i : Nat) chamada visto, sm.1.chamadas[i]? = some chamada →
    sm.2.vistos[i]? = some visto → Pendente cofre sm.1.casas sm.2 visto chamada
  novos : ∀ chamada ∈ sm.1.chamadas, ∀ hash, traz? chamada = some hash →
    (∀ valido ∈ sm.2.validos, valido.2 ≠ hash) ∧
      ∃ segredo ∈ sm.2.sorteados, hash = cofre.hashDeWebhook segredo
  distintos : (sm.1.chamadas.filterMap traz?).Nodup

/-- What is in use is not revoked. -/
theorem Vivo.revogadosForaDeUso {sm : CasasEmCurso × Memoria} (vivo : Vivo cofre sm) :
    RevogadosForaDeUso cofre sm := by
  intro revogado mem segredo hash
  rw [CasasDePagamento.porSegredoDeWebhook]
  split
  · rfl
  · rw [List.find?_eq_none]
    intro c row found
    simp only [Bool.and_eq_true, decide_eq_true_eq] at found
    exact vivo.fora revogado mem (c.chave, c.webhookSecretHash) (List.mem_map_of_mem row)
      (found.2.trans hash)

/-! ### The reads -/

/-- A secret nobody drew has a hash nobody has. -/
theorem Vivo.hash_inedito {sm : CasasEmCurso × Memoria} (semColisao : cofre.SemColisao)
    (vivo : Vivo cofre sm) {segredo : String} (inedito : segredo ∉ sm.2.sorteados) :
    (∀ valido ∈ sm.2.validos, valido.2 ≠ cofre.hashDeWebhook segredo) ∧
      cofre.hashDeWebhook segredo ∉ sm.1.chamadas.filterMap traz? := by
  refine ⟨fun valido mem same => ?_, fun mem => ?_⟩
  · obtain ⟨outro, drawn, hash⟩ := vivo.sorteio valido mem
    exact inedito (semColisao (same.symm.trans hash) ▸ drawn)
  · obtain ⟨chamada, call, brings⟩ := List.mem_filterMap.mp mem
    obtain ⟨outro, drawn, hash⟩ := (vivo.novos chamada call _ brings).2
    exact inedito (semColisao hash ▸ drawn)

theorem hash_prepararSalvar (ideal : cofre.Abre) {churchId : Id} {provider : PaymentProvider}
    {dto : UpsertPaymentProviderDto} {sorteado : SegredoSorteado} {iv : Nat} {dados : DadosDaCasa}
    {c : CasaGravada} (selada : CasasDePagamento.Selada cofre c)
    (ok : CasasDePagamento.prepararSalvar cofre textos churchId provider dto (some c) sorteado iv =
      .ok dados) :
    dados.webhookSecretHash = c.webhookSecretHash := by
  obtain ⟨atuais, _, segredo, was, _, _, is, _, hash⟩ := CasasDePagamento.prepararSalvar_ok ideal ok
  obtain ⟨antes, guardado, opened, found, hash', values⟩ := selada
  obtain rfl := Except.ok.inj (opened.symm.trans (was c rfl))
  rw [hash, hash', is, found, Option.getD_some,
    if_neg (CasasDePagamento.lookup_ne_blank values found)]

theorem hash_prepararSalvar_none (ideal : cofre.Abre) {churchId : Id} {provider : PaymentProvider}
    {dto : UpsertPaymentProviderDto} {sorteado : SegredoSorteado} {iv : Nat} {dados : DadosDaCasa}
    (ok : CasasDePagamento.prepararSalvar cofre textos churchId provider dto none sorteado iv =
      .ok dados) :
    dados.webhookSecretHash = cofre.hashDeWebhook sorteado.val := by
  obtain ⟨atuais, _, segredo, _, was, _, is, _, hash⟩ := CasasDePagamento.prepararSalvar_ok ideal ok
  obtain rfl := was rfl
  rw [hash, is]
  rfl

/-- What a call is when its read is over. -/
def Lida (cofre : CofreDeSegredos) (sm : CasasEmCurso × Memoria) (segredo : String)
    (chamada : ChamadaDaCasa) : Prop :=
  Pendente cofre sm.1.casas sm.2 (sm.2.validos, sm.2.rotadas.length) chamada ∧
    ∀ hash, traz? chamada = some hash → hash = cofre.hashDeWebhook segredo

theorem lida_lerSalvar (ideal : cofre.Abre) (vivo : Vivo cofre (s, m)) {churchId : Id}
    {provider : PaymentProvider} {dto : UpsertPaymentProviderDto} {actorId : Option Id}
    {sorteado : SegredoSorteado} {iv : Nat} {chamada : ChamadaDaCasa}
    (ok : s.lerSalvar cofre textos churchId provider dto actorId sorteado iv = .ok chamada) :
    Lida cofre (s, m) sorteado.val chamada := by
  simp only [lerSalvar, bind_eq_ok_iff, pure_eq_ok_iff] at ok
  obtain ⟨_, _, _, _, dados, prepared, rfl⟩ := ok
  have selados : DadosSelados cofre (churchId, provider) dados := by
    intro c key
    have selada : CasasDePagamento.Selada cofre
        { CasasDePagamento.escrever dados c with isDefault := c.isDefault } :=
      CasasDePagamento.selada_escrever ideal prepared key
    exact selada
  cases found : s.casas.buscar churchId provider with
  | none =>
      rw [found] at prepared
      refine ⟨selados, fun hash brings => ?_⟩
      rw [← Option.some.inj brings]
      exact hash_prepararSalvar_none ideal prepared
  | some c =>
      rw [found] at prepared
      have row : c ∈ s.casas.configs := lookup_mem found
      have key : c.chave = (churchId, provider) := lookup_key found
      have hash := hash_prepararSalvar ideal (vivo.tabela.seladas c row) prepared
      have use : ((churchId, provider), dados.webhookSecretHash) ∈ s.emUso := by
        rw [hash, ← key]
        exact List.mem_map_of_mem row
      refine ⟨⟨selados, vivo.guardados _ use, fun _ revoked => ?_⟩, fun _ brings => ?_⟩
      · exact vivo.fora _ revoked _ use rfl
      · cases brings

theorem lida_lerRotacao (ideal : cofre.Abre) (vivo : Vivo cofre (s, m)) {churchId : Id}
    {provider : PaymentProvider} {sorteado : SegredoSorteado} {iv : Nat} {chamada : ChamadaDaCasa}
    (ok : s.lerRotacao cofre churchId provider sorteado iv = .ok chamada) :
    Lida cofre (s, m) sorteado.val chamada := by
  simp only [lerRotacao, CasasDePagamento.exigir, bind_eq_ok_iff, orFail_eq_ok_iff,
    pure_eq_ok_iff] at ok
  obtain ⟨_, _, c, found, dados, prepared, rfl⟩ := ok
  have row : c ∈ s.casas.configs := lookup_mem found
  have key : c.chave = (churchId, provider) := lookup_key found
  obtain ⟨rfl, rfl⟩ := Prod.mk.inj key
  have selada := CasasDePagamento.selada_rotacao ideal (vivo.tabela.seladas c row) prepared
  refine ⟨⟨fun d same => ?_, vivo.tabela.ids.lt_next c row, fun d mem same => ?_⟩,
    fun hash brings => ?_⟩
  · obtain ⟨church, house⟩ := Prod.mk.inj same
    rw [CasasDePagamento.Selada, CasasDePagamento.abrirCofre] at selada ⊢
    rwa [church, house]
  · rw [vivo.tabela.ids.eq_of_key_eq mem row same]
  · simp only [CasasDePagamento.prepararRotacao, bind_eq_ok_iff, pure_eq_ok_iff] at prepared
    obtain ⟨_, _, rfl⟩ := prepared
    exact (Option.some.inj brings).symm

/-- A call stays as it was read while others read and write. -/
theorem Pendente.depois {db db' : CasasDePagamento} {m' : Memoria}
    {visto : List ((Id × PaymentProvider) × String) × Nat} {chamada : ChamadaDaCasa}
    (pendente : Pendente cofre db m visto chamada)
    (validos : ∀ valido ∈ m.validos, valido ∈ m'.validos)
    (rotadas : ∀ chave, chave ∉ m'.rotadas.drop visto.2 → chave ∉ m.rotadas.drop visto.2 ∧
      ∀ hash, (chave, hash) ∈ m'.revogados → (chave, hash) ∈ m.revogados)
    (next : db.nextId ≤ db'.nextId)
    (linhas : ∀ d ∈ db'.configs, d.id < db.nextId →
      ∃ c ∈ db.configs, c.id = d.id ∧ c.chave = d.chave) :
    Pendente cofre db' m' visto chamada := by
  cases chamada with
  | salvar churchId provider makeDefault existente dados =>
      cases existente with
      | none => exact pendente
      | some c =>
          obtain ⟨selados, valid, kept⟩ := pendente
          refine ⟨selados, validos _ valid, fun apart revoked => ?_⟩
          obtain ⟨before, old⟩ := rotadas _ apart
          exact kept before (old _ revoked)
  | rotacionarSegredo config dados =>
      obtain ⟨selados, below, own⟩ := pendente
      refine ⟨selados, below.trans_le next, fun d mem same => ?_⟩
      obtain ⟨c, was, id, key⟩ := linhas d mem (same.symm ▸ below)
      rw [← key]
      exact own c was (id.trans same)
  | encerrada gravou => trivial

/-- The memory after a read. -/
def Memoria.aoLer (m : Memoria) (s : CasasEmCurso) (segredo : String) : Memoria :=
  { m with
    sorteados := m.sorteados ++ [segredo]
    validos := m.validos ++ s.emUso
    vistos := m.vistos ++ [(m.validos, m.rotadas.length)] }

/-- A call that has read enters with its place in the memory. -/
theorem vivo_comecar (semColisao : cofre.SemColisao) (vivo : Vivo cofre (s, m)) {segredo : String}
    (inedito : segredo ∉ m.sorteados) {chamada : ChamadaDaCasa}
    (lida : Lida cofre (s, m) segredo chamada) :
    Vivo cofre ({ s with chamadas := s.chamadas ++ [chamada] }, m.aoLer s segredo) := by
  obtain ⟨unused, unread⟩ := vivo.hash_inedito semColisao inedito
  have old : ∀ valido ∈ m.validos ++ s.emUso, valido ∈ m.validos := fun valido mem =>
    (List.mem_append.mp mem).elim id (vivo.guardados valido)
  have hash : ∀ outra ∈ s.chamadas ++ [chamada], ∀ hash, traz? outra = some hash →
      (outra ∈ s.chamadas ∨ hash = cofre.hashDeWebhook segredo) := by
    intro outra mem hash brings
    rcases List.mem_append.mp mem with before | new
    · exact .inl before
    · obtain rfl := List.mem_singleton.mp new
      exact .inr (lida.2 hash brings)
  refine ⟨vivo.tabela, fun valido mem => List.mem_append_right _ mem, ?_, ?_, ?_, ?_, ?_, ?_,
    ?_, ?_, ?_⟩
  · exact fun valido mem outro mem' => vivo.umDono valido (old _ mem) outro (old _ mem')
  · intro valido mem
    obtain ⟨outro, drawn, same⟩ := vivo.sorteio valido (old _ mem)
    exact ⟨outro, List.mem_append_left _ drawn, same⟩
  · exact fun revogado mem => List.mem_append_left _ (vivo.conhecidos revogado mem)
  · exact fun revogado mem => vivo.fora revogado mem
  · simpa [Memoria.aoLer] using vivo.alinhado
  · intro visto mem
    rcases List.mem_append.mp mem with before | new
    · exact ⟨(vivo.vistos visto before).1,
        fun valido there => List.mem_append_left _ ((vivo.vistos visto before).2 valido there)⟩
    · obtain rfl := List.mem_singleton.mp new
      exact ⟨Nat.le_refl _, fun valido there => List.mem_append_left _ there⟩
  · intro i outra visto call seen
    have keep : ∀ outra visto, Pendente cofre s.casas m visto outra →
        Pendente cofre s.casas (m.aoLer s segredo) visto outra := fun outra visto pendente =>
      pendente.depois (fun valido mem => List.mem_append_left _ mem)
        (fun chave apart => ⟨apart, fun hash mem => mem⟩) (Nat.le_refl _)
        fun d mem _ => ⟨d, mem, rfl, rfl⟩
    have aligned : m.vistos.length = s.chamadas.length := vivo.alinhado
    dsimp only [Memoria.aoLer] at call seen
    rcases getElem?_begun call with old | ⟨rfl, rfl⟩
    · have before : i < m.vistos.length := aligned ▸ (List.getElem?_eq_some_iff.mp old).1
      rw [List.getElem?_append_left before] at seen
      exact keep outra visto (vivo.pendentes i outra visto old seen)
    · rw [← aligned, List.getElem?_concat_length] at seen
      obtain rfl := Option.some.inj seen
      exact keep _ _ lida.1
  · intro outra mem value brings
    rcases hash outra mem value brings with before | rfl
    · obtain ⟨fresh, outro, drawn, same⟩ := vivo.novos outra before value brings
      exact ⟨fun valido mem => fresh valido (old _ mem), outro, List.mem_append_left _ drawn, same⟩
    · exact ⟨fun valido mem => unused valido (old _ mem), segredo,
        List.mem_append_right _ (List.mem_singleton.mpr rfl), rfl⟩
  · have brings : ∀ value ∈ [chamada].filterMap traz?, value = cofre.hashDeWebhook segredo := by
      intro value mem
      obtain ⟨outra, is, brings⟩ := List.mem_filterMap.mp mem
      obtain rfl := List.mem_singleton.mp is
      exact lida.2 value brings
    have single : ([chamada].filterMap traz?).Nodup := by
      cases own : traz? chamada with
      | none =>
          rw [List.filterMap_cons_none own]
          exact List.nodup_nil
      | some value =>
          rw [List.filterMap_cons_some own]
          exact List.nodup_singleton value
    rw [List.filterMap_append]
    refine List.nodup_append.mpr ⟨vivo.distintos, single, fun value mem other mem' same => ?_⟩
    obtain rfl := brings other mem'
    exact unread (same ▸ mem)

/-! ### The writes -/

/-- What a write does to the table: the row of its configuration takes a new hash, if any, and the
others stay. -/
structure Gravou (cofre : CofreDeSegredos) (db db' : CasasDePagamento)
    (nova : Option ((Id × PaymentProvider) × String)) : Prop where
  tabela : Tabela cofre db'
  next : db.nextId ≤ db'.nextId
  linhas : ∀ d ∈ db'.configs, d.id < db.nextId → ∃ c ∈ db.configs, c.id = d.id ∧ c.chave = d.chave
  usos : ∀ d ∈ db'.configs, nova = some (d.chave, d.webhookSecretHash) ∨
    (∃ c ∈ db.configs, c.chave = d.chave ∧ c.webhookSecretHash = d.webhookSecretHash) ∧
      ∀ valido, nova = some valido → d.chave ≠ valido.1

theorem gravou_nada {db : CasasDePagamento} (tabela : Tabela cofre db) : Gravou cofre db db none :=
  ⟨tabela, Nat.le_refl _, fun d mem _ => ⟨d, mem, rfl, rfl⟩,
    fun d mem => .inr ⟨⟨d, mem, rfl, rfl⟩, fun _ none => by cases none⟩⟩

theorem gravou_salvar {db db' : CasasDePagamento} {churchId : Id} {provider : PaymentProvider}
    {makeDefault : Option Bool} {dados : DadosDaCasa} (tabela : Tabela cofre db)
    (selados : DadosSelados cofre (churchId, provider) dados)
    (ok : db.gravarSalvar churchId provider makeDefault dados = .ok db') :
    Gravou cofre db db' (some ((churchId, provider), dados.webhookSecretHash)) := by
  simp only [CasasDePagamento.gravarSalvar, bind_eq_ok_iff, pure_eq_ok_iff] at ok
  obtain ⟨salvo, written, rfl⟩ := ok
  have next : db.nextId ≤ salvo.nextId := by
    obtain ⟨_, _, written⟩ := bind_eq_ok_iff.mp written
    split at written
    · rw [← pure_eq_ok_iff.mp written]
    · rw [← pure_eq_ok_iff.mp written]
      exact Nat.le_succ _
  refine ⟨⟨?_, ?_, ?_⟩, next, ?_, ?_⟩
  · rw [CasasDePagamento.map_ajustarPadrao fun _ _ => rfl]
    exact CasasDePagamento.chaves_upsert tabela.chaves written
  · exact (CasasDePagamento.ids_upsert tabela.ids written).map fun c => by split_ifs <;> rfl
  · intro d mem
    obtain ⟨d, before, rfl⟩ := CasasDePagamento.mem_ajustarPadrao mem
    rcases CasasDePagamento.mem_upsert written before with ⟨_, _, _, old, _, own, rfl⟩ | ⟨was, _⟩ |
      ⟨_, c, own, _, _, rfl⟩
    · exact selados old own
    · have selada : CasasDePagamento.Selada cofre d := tabela.seladas d was
      exact selada
    · exact selados c own
  · intro d mem below
    obtain ⟨d, before, rfl⟩ := CasasDePagamento.mem_ajustarPadrao mem
    rcases CasasDePagamento.mem_upsert written before with ⟨_, _, _, old, was, _, rfl⟩ | ⟨was, _⟩ |
      ⟨_, c, _, id, _, rfl⟩
    · exact ⟨old, was, rfl, rfl⟩
    · exact ⟨d, was, rfl, rfl⟩
    · exact absurd below (id ▸ Nat.lt_irrefl _)
  · intro d mem
    obtain ⟨d, before, rfl⟩ := CasasDePagamento.mem_ajustarPadrao mem
    rcases CasasDePagamento.mem_upsert written before with
        ⟨_, _, _, old, _, own, rfl⟩ | ⟨was, other⟩ | ⟨_, c, own, _, _, rfl⟩
    · exact .inl (congrArg some (Prod.ext own.symm rfl))
    · refine .inr ⟨⟨d, was, rfl, rfl⟩, fun valido is => ?_⟩
      rw [← Option.some.inj is]
      exact other
    · exact .inl (congrArg some (Prod.ext own.symm rfl))

theorem gravou_rotacao {db db' : CasasDePagamento} {config : CasaGravada} {dados : DadosDaCasa}
    (tabela : Tabela cofre db) (selados : DadosSelados cofre config.chave dados)
    (own : ∀ c ∈ db.configs, c.id = config.id → c.chave = config.chave)
    (ok : db.gravarRotacao config dados = .ok db') :
    Gravou cofre db db' (some (config.chave, dados.webhookSecretHash)) := by
  simp only [CasasDePagamento.gravarRotacao, bind_eq_ok_iff, failIf_eq_ok_iff, pure_eq_ok_iff] at ok
  obtain ⟨_, there, _, _, rfl⟩ := ok
  obtain ⟨row, mem, id⟩ : ∃ row ∈ db.configs, row.id = config.id := by
    simpa using there
  refine ⟨⟨?_, ?_, ?_⟩, Nat.le_refl _, ?_, ?_⟩
  · rw [map_updateKey]
    · exact tabela.chaves
    · exact fun _ _ _ => rfl
  · exact tabela.ids.map fun row => by split <;> rfl
  · intro d mem
    rcases mem_updateKey.mp mem with ⟨old, was, same, rfl⟩ | ⟨was, _⟩
    · exact selados old (own old was same)
    · exact tabela.seladas d was
  · intro d mem _
    rcases mem_updateKey.mp mem with ⟨old, was, _, rfl⟩ | ⟨was, _⟩
    · exact ⟨old, was, rfl, rfl⟩
    · exact ⟨d, was, rfl, rfl⟩
  · intro d mem'
    rcases mem_updateKey.mp mem' with ⟨old, was, same, rfl⟩ | ⟨was, other⟩
    · exact .inl (congrArg some (Prod.ext (own old was same).symm rfl))
    · refine .inr ⟨⟨d, was, rfl, rfl⟩, fun valido is key => other ?_⟩
      rw [← Option.some.inj is] at key
      rw [List.inj_on_of_nodup_map tabela.chaves was mem (key.trans (own row mem id).symm), id]

/-- The memory after a write that ends the rotations `fim` and revokes `mortos`. -/
def Memoria.aoGravar (m : Memoria) (s' : CasasEmCurso) (fim : List (Id × PaymentProvider))
    (mortos : List ((Id × PaymentProvider) × String)) : Memoria :=
  { m with
    validos := m.validos ++ s'.emUso
    rotadas := m.rotadas ++ fim
    revogados := m.revogados ++ mortos }

/-- A secret in use after a write is the one written, or was in use under another key. -/
theorem Gravou.uso {db' : CasasDePagamento} {nova : Option ((Id × PaymentProvider) × String)}
    (gravou : Gravou cofre s.casas db' nova) :
    ∀ valido ∈ db'.configs.map fun c => (c.chave, c.webhookSecretHash),
      nova = some valido ∨ valido ∈ s.emUso ∧ ∀ outro, nova = some outro → valido.1 ≠ outro.1 := by
  intro valido mem
  obtain ⟨d, row, rfl⟩ := List.mem_map.mp mem
  rcases gravou.usos d row with new | ⟨⟨c, was, key, hash⟩, other⟩
  · exact .inl new
  · refine .inr ⟨?_, other⟩
    rw [← key, ← hash]
    exact List.mem_map_of_mem was

/-- A secret known after a write was known, or the call brought it. -/
theorem Vivo.valido_depois (vivo : Vivo cofre (s, m)) {db' : CasasDePagamento}
    {nova : Option ((Id × PaymentProvider) × String)} (gravou : Gravou cofre s.casas db' nova)
    {chamada : ChamadaDaCasa}
    (chegou : ∀ valido, nova = some valido → valido ∈ m.validos ∨ traz? chamada = some valido.2) :
    ∀ valido ∈ m.validos ++ db'.configs.map fun c => (c.chave, c.webhookSecretHash),
      valido ∈ m.validos ∨ nova = some valido ∧ traz? chamada = some valido.2 := by
  intro valido mem
  rcases List.mem_append.mp mem with old | now
  · exact .inl old
  · rcases gravou.uso valido now with new | ⟨was, _⟩
    · exact (chegou valido new).imp id fun brings => ⟨new, brings⟩
    · exact .inl (vivo.guardados valido was)

theorem vivo_gravar (vivo : Vivo cofre (s, m)) (gravado : Bool)
    (fim : List (Id × PaymentProvider)) (mortos : List ((Id × PaymentProvider) × String))
    {db' : CasasDePagamento} {nova : Option ((Id × PaymentProvider) × String)}
    (gravou : Gravou cofre s.casas db' nova)
    {i : Nat} {chamada : ChamadaDaCasa} (call : s.chamadas[i]? = some chamada)
    (chegou : ∀ valido, nova = some valido → valido ∈ m.validos ∨ traz? chamada = some valido.2)
    (morreu : ∀ revogado ∈ mortos, revogado ∈ m.validos ∧ revogado.1 ∈ fim ∧
      ∃ valido, nova = some valido ∧ valido.1 = revogado.1)
    (limpo : ∀ valido, nova = some valido → ∀ revogado ∈ m.revogados ++ mortos,
      valido.2 ≠ revogado.2) :
    Vivo cofre (⟨db', s.chamadas.set i (.encerrada gravado)⟩,
      m.aoGravar ⟨db', s.chamadas.set i (.encerrada gravado)⟩ fim mortos) := by
  have valid := vivo.valido_depois gravou chegou
  have unseen : ∀ hash, traz? chamada = some hash → ∀ valido ∈ m.validos, valido.2 ≠ hash :=
    fun hash brings => (vivo.novos chamada (List.mem_of_getElem? call) hash brings).1
  constructor
  case tabela => exact gravou.tabela
  case guardados => exact fun valido mem => List.mem_append_right _ mem
  case umDono =>
    intro valido mem outro mem' same
    rcases valid valido mem with old | ⟨new, brings⟩ <;>
      rcases valid outro mem' with old' | ⟨new', brings'⟩
    · exact vivo.umDono valido old outro old' same
    · exact absurd same (unseen _ brings' valido old)
    · exact absurd same.symm (unseen _ brings outro old')
    · exact Option.some.inj (new.symm.trans new')
  case sorteio =>
    intro valido mem
    rcases valid valido mem with old | ⟨_, brings⟩
    · exact vivo.sorteio valido old
    · exact (vivo.novos chamada (List.mem_of_getElem? call) _ brings).2
  case conhecidos =>
    intro revogado mem
    refine List.mem_append_left _ ?_
    exact (List.mem_append.mp mem).elim (vivo.conhecidos revogado) fun dead =>
      (morreu revogado dead).1
  case fora =>
    intro revogado mem valido use
    rcases gravou.uso valido use with new | ⟨was, other⟩
    · exact limpo valido new revogado mem
    · rcases List.mem_append.mp mem with old | dead
      · exact vivo.fora revogado old valido was
      · obtain ⟨known, _, escrito, new, key⟩ := morreu revogado dead
        intro same
        refine other escrito new ?_
        rw [vivo.umDono valido (vivo.guardados valido was) revogado known same, key]
  case alinhado =>
    rw [List.length_set]
    exact vivo.alinhado
  case vistos =>
    intro visto mem
    obtain ⟨count, inside⟩ := vivo.vistos visto mem
    refine ⟨count.trans ?_, fun valido there => List.mem_append_left _ (inside valido there)⟩
    dsimp only [Memoria.aoGravar]
    rw [List.length_append]
    exact Nat.le_add_right _ _
  case pendentes =>
    intro j outra visto call' seen
    dsimp only [Memoria.aoGravar] at call' seen ⊢
    rcases getElem?_moved call' with ⟨_, rfl⟩ | ⟨_, old⟩
    · trivial
    · have count := (vivo.vistos visto (List.mem_of_getElem? seen)).1
      refine (vivo.pendentes j outra visto old seen).depois
        (fun valido mem => List.mem_append_left _ mem) (fun chave apart => ?_) gravou.next
        gravou.linhas
      dsimp only at apart count
      rw [List.drop_append_of_le_length count, List.mem_append, not_or] at apart
      refine ⟨apart.1, fun hash mem => ?_⟩
      exact (List.mem_append.mp mem).elim id fun dead =>
        absurd (morreu (chave, hash) dead).2.1 apart.2
  case novos =>
    intro outra mem hash brings
    have rest : hash ∈ (s.chamadas.set i (.encerrada gravado)).filterMap traz? :=
      List.mem_filterMap.mpr ⟨outra, mem, brings⟩
    obtain ⟨antes, there, brings'⟩ := List.mem_filterMap.mp
      ((held_ended_sublist rfl s.chamadas i).subset rest)
    obtain ⟨fresh, drawn⟩ := vivo.novos antes there hash brings'
    refine ⟨fun valido known => ?_, drawn⟩
    rcases valid valido known with old | ⟨_, own⟩
    · exact fresh valido old
    · rintro rfl
      exact not_held_ended rfl vivo.distintos call own rest
  case distintos => exact vivo.distintos.sublist (held_ended_sublist rfl s.chamadas i)

/-! ### Runs -/

/-- What a write brings is new, or was read and has not been revoked since. -/
theorem vivo_escrita (vivo : Vivo cofre (s, m)) {i : Nat} {chamada : ChamadaDaCasa}
    (call : s.chamadas[i]? = some chamada)
    (guard : SemRotacaoNoMeio (s, m) (.gravar i)) :
    Vivo cofre (s.gravar i chamada, registrar m s (.gravar i) (s.gravar i chamada)) := by
  have inside : i < s.chamadas.length := (List.getElem?_eq_some_iff.mp call).1
  have aligned : m.vistos.length = s.chamadas.length := vivo.alinhado
  obtain ⟨visto, seen⟩ : ∃ visto, m.vistos[i]? = some visto :=
    ⟨_, List.getElem?_eq_getElem (aligned ▸ inside)⟩
  have pendente : Pendente cofre s.casas m visto chamada :=
    vivo.pendentes i chamada visto call seen
  have unseen : ∀ hash, traz? chamada = some hash → ∀ valido ∈ m.validos, hash ≠ valido.2 :=
    fun hash brings valido mem same =>
      (vivo.novos chamada (List.mem_of_getElem? call) hash brings).1 valido mem same.symm
  have ended : ∀ gravado, (s.chamadas.set i (.encerrada gravado))[i]? =
      some (.encerrada gravado) := fun gravado => List.getElem?_set_self inside
  cases written : s.escrita chamada with
  | error e =>
      have after := vivo_gravar vivo false [] [] (gravou_nada vivo.tabela) call
        (fun _ none => by cases none) (fun _ mem => by cases mem) fun _ none => by cases none
      rw [gravar, written]
      simpa [registrar, encerra?, call, ended, Acao.sorteado?, Memoria.aoGravar, emUso] using after
  | ok casas =>
      rw [gravar, written]
      cases chamada with
      | salvar churchId provider makeDefault existente dados =>
          cases existente with
          | none =>
              have after := vivo_gravar vivo true [] [] (gravou_salvar vivo.tabela pendente written)
                call (fun valido is => .inr (by rw [← Option.some.inj is]; rfl))
                (fun _ mem => by cases mem) fun valido is revogado mem => by
                  rw [← Option.some.inj is]
                  rw [List.append_nil] at mem
                  exact unseen _ rfl revogado (vivo.conhecidos revogado mem)
              simpa [registrar, encerra?, call, ended, Acao.sorteado?, Memoria.aoGravar, emUso]
                using after
          | some c =>
              obtain ⟨selados, valid, kept⟩ := pendente
              have alive := kept (guard.emDia i churchId provider makeDefault c dados visto rfl call
                seen)
              have after := vivo_gravar vivo true [] [] (gravou_salvar vivo.tabela selados written)
                call (fun valido is => .inl (by rw [← Option.some.inj is]; exact valid))
                (fun _ mem => by cases mem) fun valido is revogado mem same => by
                  rw [← Option.some.inj is] at same
                  rw [List.append_nil] at mem
                  have known := vivo.conhecidos revogado mem
                  exact alive (vivo.umDono _ valid revogado known same ▸ mem)
              simpa [registrar, encerra?, call, ended, Acao.sorteado?, Memoria.aoGravar, emUso]
                using after
      | rotacionarSegredo config dados =>
          obtain ⟨selados, _, own⟩ := pendente
          have known : ∀ valido ∈ visto.1, valido ∈ m.validos :=
            (vivo.vistos visto (List.mem_of_getElem? seen)).2
          have after := vivo_gravar vivo true [config.chave]
            (visto.1.filter fun valido => valido.1 = config.chave)
            (gravou_rotacao vivo.tabela selados own written) call
            (fun valido is => .inr (by rw [← Option.some.inj is]; rfl))
            (fun revogado mem => by
              obtain ⟨there, key⟩ := List.mem_filter.mp mem
              have key := of_decide_eq_true key
              exact ⟨known revogado there, List.mem_singleton.mpr key, _, rfl, key.symm⟩)
            fun valido is revogado mem => by
              rw [← Option.some.inj is]
              refine unseen _ rfl revogado ?_
              exact (List.mem_append.mp mem).elim (vivo.conhecidos revogado) fun dead =>
                known revogado (List.mem_filter.mp dead).1
          simpa [registrar, encerra?, call, seen, ended, Acao.sorteado?, Memoria.aoGravar, emUso]
            using after
      | encerrada gravou =>
          obtain rfl := Except.ok.inj written
          have after := vivo_gravar vivo true [] [] (gravou_nada vivo.tabela) call
            (fun _ none => by cases none) (fun _ mem => by cases mem) fun _ none => by cases none
          simpa [registrar, encerra?, call, ended, Acao.sorteado?, Memoria.aoGravar, emUso]
            using after

/-- A read begins a call, or one that is over already. -/
theorem vivo_leitura (semColisao : cofre.SemColisao) (vivo : Vivo cofre (s, m)) {segredo : String}
    (drawn : acao.sorteado? = some segredo) (inedito : segredo ∉ m.sorteados)
    {leitura : Except Failure ChamadaDaCasa}
    (lida : ∀ chamada, leitura = .ok chamada → Lida cofre (s, m) segredo chamada) :
    Vivo cofre (s.comecar leitura, registrar m s acao (s.comecar leitura)) := by
  have none : encerra? m s (s.comecar leitura) acao = none := by
    cases acao with
    | gravar i => cases drawn
    | lerSalvar churchId provider dto actorId sorteado iv => rfl
    | lerRotacao churchId provider sorteado iv => rfl
  have memory : registrar m s acao (s.comecar leitura) = m.aoLer s segredo := by
    have table : (s.comecar leitura).emUso = s.emUso := by cases leitura <;> rfl
    simp [registrar, none, drawn, table, Memoria.aoLer]
  rw [memory]
  cases leitura with
  | ok chamada => exact vivo_comecar semColisao vivo inedito (lida chamada rfl)
  | error e =>
      exact vivo_comecar semColisao vivo inedito ⟨trivial, fun _ brings => by cases brings⟩

/-- The write of a call that is over does nothing. -/
theorem vivo_parado (vivo : Vivo cofre (s, m)) : Vivo cofre (s, m.aoGravar s [] []) := by
  have old : ∀ valido ∈ m.validos ++ s.emUso, valido ∈ m.validos := fun valido mem =>
    (List.mem_append.mp mem).elim id (vivo.guardados valido)
  have revoked : (m.aoGravar s [] []).revogados = m.revogados := List.append_nil _
  have rotated : (m.aoGravar s [] []).rotadas = m.rotadas := List.append_nil _
  refine ⟨vivo.tabela, fun valido mem => List.mem_append_right _ mem,
    fun valido mem outro mem' => vivo.umDono valido (old _ mem) outro (old _ mem'),
    fun valido mem => vivo.sorteio valido (old _ mem), ?_, ?_, vivo.alinhado, ?_, ?_,
    fun chamada mem hash brings => ?_, vivo.distintos⟩
  · intro revogado mem
    rw [revoked] at mem
    exact List.mem_append_left _ (vivo.conhecidos revogado mem)
  · intro revogado mem
    rw [revoked] at mem
    exact vivo.fora revogado mem
  · intro visto mem
    rw [rotated]
    obtain ⟨count, inside⟩ := vivo.vistos visto mem
    exact ⟨count, fun valido there => List.mem_append_left _ (inside valido there)⟩
  · intro i chamada visto call seen
    refine (vivo.pendentes i chamada visto call seen).depois
      (fun valido mem => List.mem_append_left _ mem) (fun chave apart => ?_) (Nat.le_refl _)
      fun d mem _ => ⟨d, mem, rfl, rfl⟩
    rw [rotated] at apart
    rw [revoked]
    exact ⟨apart, fun _ mem => mem⟩
  · obtain ⟨fresh, drawn⟩ := vivo.novos chamada mem hash brings
    exact ⟨fun valido mem' => fresh valido (old _ mem'), drawn⟩

theorem vivo_step (ideal : cofre.Abre) (semColisao : cofre.SemColisao)
    {sm : CasasEmCurso × Memoria} (vivo : Vivo cofre sm) (guard : SemRotacaoNoMeio sm acao) :
    Vivo cofre (withHistory (CasasEmCurso.step cofre textos) registrar sm acao) := by
  obtain ⟨s, m⟩ := sm
  cases acao with
  | lerSalvar churchId provider dto actorId sorteado iv =>
      exact vivo_leitura semColisao vivo rfl (guard.inedito _ rfl) fun _ ok =>
        lida_lerSalvar ideal vivo ok
  | lerRotacao churchId provider sorteado iv =>
      exact vivo_leitura semColisao vivo rfl (guard.inedito _ rfl) fun _ ok =>
        lida_lerRotacao ideal vivo ok
  | gravar i =>
      rw [withHistory, CasasEmCurso.step]
      split
      · next call =>
          have after := vivo_parado vivo
          simpa [registrar, encerra?, call, Acao.sorteado?, Memoria.aoGravar] using after
      · next call =>
          have after := vivo_parado vivo
          simpa [registrar, encerra?, call, Acao.sorteado?, Memoria.aoGravar] using after
      · next chamada _ call => exact vivo_escrita vivo call guard

theorem vivo_vazia {s : CasasEmCurso} (tabela : s.casas.configs = []) (chamadas : s.chamadas = []) :
    Vivo cofre (s, Memoria.vazia) := by
  have rows : ∀ c, c ∉ s.casas.configs := fun c mem => by
    rw [tabela] at mem
    cases mem
  have uses : ∀ valido, valido ∉ s.emUso := fun valido mem => by
    obtain ⟨c, row, _⟩ := List.mem_map.mp mem
    exact rows c row
  have empty : ∀ valido : (Id × PaymentProvider) × String, valido ∉ Memoria.vazia.validos :=
    fun _ => List.not_mem_nil
  have unrevoked : ∀ revogado : (Id × PaymentProvider) × String,
      revogado ∉ Memoria.vazia.revogados := fun _ => List.not_mem_nil
  exact
    { tabela :=
        { chaves := by rw [tabela]; exact List.nodup_nil
          ids := by rw [tabela]; exact Keyed.nil
          seladas := fun c mem => absurd mem (rows c) }
      guardados := fun valido mem => absurd mem (uses valido)
      umDono := fun valido mem => absurd mem (empty valido)
      sorteio := fun valido mem => absurd mem (empty valido)
      conhecidos := fun revogado mem => absurd mem (unrevoked revogado)
      fora := fun revogado mem => absurd mem (unrevoked revogado)
      alinhado := by rw [chamadas]; rfl
      vistos := fun visto mem => absurd mem List.not_mem_nil
      pendentes := fun _ _ visto _ seen => absurd (List.mem_of_getElem? seen) List.not_mem_nil
      novos := fun chamada mem => by rw [chamadas] at mem; cases mem
      distintos := by rw [chamadas]; exact List.nodup_nil }

variable (cofre textos)

/-- In every run whose draws are new and where no rotation returns between the read and the write of
a save, no secret that a rotation has revoked is accepted again. -/
theorem segredosRevogados_run (ideal : cofre.Abre) (semColisao : cofre.SemColisao)
    (s : CasasEmCurso) (tabela : s.casas.configs = []) (chamadas : s.chamadas = [])
    (acoes : List Acao)
    (guarda : EachStep (withHistory (CasasEmCurso.step cofre textos) registrar) SemRotacaoNoMeio
      (s, Memoria.vazia) acoes) :
    Always (withHistory (CasasEmCurso.step cofre textos) registrar) (RevogadosForaDeUso cofre)
      (s, Memoria.vazia) acoes :=
  (always_of_eachStep (fun _ _ vivo guard => vivo_step ideal semColisao vivo guard)
    (vivo_vazia tabela chamadas) guarda).mono fun _ vivo => vivo.revogadosForaDeUso

end CasasEmCurso

/-! ### A save around a rotation -/

namespace UmaCasa

open CasasEmCurso

/-- The form with a token, or with the field left blank. -/
def dto (token : String) : UpsertPaymentProviderDto :=
  ⟨some .production, some true, some true, [("token", .texto token)]⟩

def lerSalvar (token : String) (c : Char) : CasasEmCurso.Acao :=
  .lerSalvar 1 .pagbank (dto token) none (sorteado c) 0

def lerRotacao (c : Char) : CasasEmCurso.Acao := .lerRotacao 1 .pagbank (sorteado c) 0

section Corrida

variable (cofre : CofreDeSegredos)

def dados (segredo : Char) : DadosDaCasa :=
  ⟨.production, true,
    cofre.cifrar [("token", "tk"), (chaveDoWebhook, (sorteado segredo).val)]
      (contextoDoSelo 1 .pagbank) 0,
    cofre.hashDeWebhook (sorteado segredo).val⟩

/-- The house with a secret. -/
def casa (segredo : Char) : CasaGravada :=
  ⟨1, 1, .pagbank, .production, true, true, (dados cofre segredo).credentials,
    (dados cofre segredo).webhookSecretHash⟩

def com (configs : List CasaGravada) (chamadas : List ChamadaDaCasa) : CasasEmCurso :=
  ⟨⟨configs, [], fun _ => none, configs.length + 1⟩, chamadas⟩

/-- The save that sets the house up. -/
def primeira : ChamadaDaCasa := .salvar 1 .pagbank (some true) none (dados cofre 'a')

/-- A save that has read the house with its first secret. -/
def segunda : ChamadaDaCasa :=
  .salvar 1 .pagbank (some true) (some (casa cofre 'a')) (dados cofre 'a')

/-- A rotation that has read the house with its first secret. -/
def rotacao : ChamadaDaCasa := .rotacionarSegredo (casa cofre 'a') (dados cofre 'b')

variable {cofre} (disponivel : cofre.disponivel = true) (ideal : cofre.Abre)
  {chamadas : List ChamadaDaCasa}

theorem exigirCofre_disponivel (disponivel : cofre.disponivel = true) :
    CasasDePagamento.exigirCofre cofre = .ok () := by
  rw [CasasDePagamento.exigirCofre, disponivel]
  rfl

theorem abrirCofre_casa (ideal : cofre.Abre) (c : Char) :
    CasasDePagamento.abrirCofre cofre (casa cofre c) =
      .ok [("token", "tk"), (chaveDoWebhook, (sorteado c).val)] :=
  ideal _ _ _

include disponivel in
theorem step_primeira :
    CasasEmCurso.step cofre textos (com [] []) (lerSalvar "tk" 'a') = com [] [primeira cofre] := by
  have read : (com [] []).lerSalvar cofre textos 1 .pagbank (dto "tk") none (sorteado 'a') 0 =
      .ok (primeira cofre) := by
    rw [CasasEmCurso.lerSalvar, exigirCofre_disponivel disponivel]
    rfl
  rw [lerSalvar, CasasEmCurso.step, read]
  rfl

theorem step_gravarPrimeira :
    CasasEmCurso.step cofre textos (com [] [primeira cofre]) (.gravar 0) =
      com [casa cofre 'a'] [.encerrada true] :=
  rfl

include disponivel ideal in
theorem step_segunda :
    CasasEmCurso.step cofre textos (com [casa cofre 'a'] chamadas) (lerSalvar "" 'c') =
      com [casa cofre 'a'] (chamadas ++ [segunda cofre]) := by
  have prepared : CasasDePagamento.prepararSalvar cofre textos 1 .pagbank (dto "")
      (some (casa cofre 'a')) (sorteado 'c') 0 = .ok (dados cofre 'a') := by
    simp only [CasasDePagamento.prepararSalvar, abrirCofre_casa ideal]
    rfl
  have found : (com [casa cofre 'a'] chamadas).casas.buscar 1 .pagbank = some (casa cofre 'a') :=
    rfl
  have read : (com [casa cofre 'a'] chamadas).lerSalvar cofre textos 1 .pagbank (dto "") none
      (sorteado 'c') 0 = .ok (segunda cofre) := by
    simp only [CasasEmCurso.lerSalvar, found, prepared, exigirCofre_disponivel disponivel]
    rfl
  rw [lerSalvar, CasasEmCurso.step, read]
  rfl

include disponivel ideal in
theorem step_rotacao :
    CasasEmCurso.step cofre textos (com [casa cofre 'a'] chamadas) (lerRotacao 'b') =
      com [casa cofre 'a'] (chamadas ++ [rotacao cofre]) := by
  have prepared : CasasDePagamento.prepararRotacao cofre 1 .pagbank (casa cofre 'a') (sorteado 'b')
      0 = .ok (dados cofre 'b') := by
    simp only [CasasDePagamento.prepararRotacao, abrirCofre_casa ideal]
    rfl
  have found : (com [casa cofre 'a'] chamadas).casas.exigir 1 .pagbank = .ok (casa cofre 'a') := rfl
  have read : (com [casa cofre 'a'] chamadas).lerRotacao cofre 1 .pagbank (sorteado 'b') 0 =
      .ok (rotacao cofre) := by
    rw [CasasEmCurso.lerRotacao, exigirCofre_disponivel disponivel, found]
    change Except.bind
      (CasasDePagamento.prepararRotacao cofre 1 .pagbank (casa cofre 'a') (sorteado 'b') 0) _ = _
    rw [prepared]
    rfl
  rw [lerRotacao, CasasEmCurso.step, read]
  rfl

theorem step_gravarRotacao {i : Nat} (call : chamadas[i]? = some (rotacao cofre)) :
    CasasEmCurso.step cofre textos (com [casa cofre 'a'] chamadas) (.gravar i) =
      com [casa cofre 'b'] (chamadas.set i (.encerrada true)) := by
  have written : (com [casa cofre 'a'] chamadas).casas.gravarRotacao (casa cofre 'a')
      (dados cofre 'b') = .ok (com [casa cofre 'b'] chamadas).casas := by
    simp [CasasDePagamento.gravarRotacao, com, failIf, casa, updateKey, dados]
    rfl
  have there : (com [casa cofre 'a'] chamadas).chamadas[i]? = some (rotacao cofre) := call
  rw [CasasEmCurso.step, there]
  simp only [rotacao, gravar, escrita, written]
  rfl

theorem step_gravarSegunda {c : Char} {i : Nat} (call : chamadas[i]? = some (segunda cofre)) :
    CasasEmCurso.step cofre textos (com [casa cofre c] chamadas) (.gravar i) =
      com [casa cofre 'a'] (chamadas.set i (.encerrada true)) := by
  have free : (com [casa cofre c] chamadas).casas.hashLivre 1 .pagbank
      (dados cofre 'a').webhookSecretHash = true := by
    simp [CasasDePagamento.hashLivre, com, casa, CasaGravada.chave]
  have written : (com [casa cofre c] chamadas).casas.gravarSalvar 1 .pagbank (some true)
      (dados cofre 'a') = .ok (com [casa cofre 'a'] chamadas).casas := by
    rw [CasasDePagamento.gravarSalvar, CasasDePagamento.upsert, free]
    rfl
  have there : (com [casa cofre c] chamadas).chamadas[i]? = some (segunda cofre) := call
  rw [CasasEmCurso.step, there]
  simp only [segunda, gravar, escrita, written]
  rfl

end Corrida

/-- The house is set up, a save reads it, a rotation runs from end to end, and the save writes. -/
def salvarEmVoltaDaRotacao : List CasasEmCurso.Acao :=
  [lerSalvar "tk" 'a', .gravar 0, lerSalvar "" 'c', lerRotacao 'b', .gravar 2, .gravar 1]

/-- The same house with the rotation after the save. -/
def rotacaoDepois : List CasasEmCurso.Acao :=
  [lerSalvar "tk" 'a', .gravar 0, lerSalvar "" 'c', .gravar 1, lerRotacao 'b', .gravar 2]

/-- A read step only needs a new draw. -/
theorem guarda_ler {sm : CasasEmCurso × Memoria} {acao : CasasEmCurso.Acao} {segredo : String}
    (drawn : acao.sorteado? = some segredo) (inedito : segredo ∉ sm.2.sorteados) :
    SemRotacaoNoMeio sm acao := by
  refine ⟨fun outro drawn' => ?_, fun i _ _ _ _ _ _ is => ?_⟩
  · obtain rfl := Option.some.inj (drawn.symm.trans drawn')
    exact inedito
  · subst is
    cases drawn

theorem cofre_semColisao : UmaCasa.cofre.SemColisao := by
  intro s t same
  exact String.append_right_inj _ |>.mp same

section Corridas

variable {cofre : CofreDeSegredos} (disponivel : cofre.disponivel = true) (ideal : cofre.Abre)

include disponivel ideal

/-- The save brings back the secret that the rotation has revoked. -/
theorem volta : ¬ Always (withHistory (CasasEmCurso.step cofre textos) registrar)
    (RevogadosForaDeUso cofre) (com [] [], Memoria.vazia) salvarEmVoltaDaRotacao := by
  intro always
  have last := always.last
  have s1 := step_primeira disponivel
  have s2 : CasasEmCurso.step cofre textos (com [] [primeira cofre]) (.gravar 0) = _ :=
    step_gravarPrimeira
  have s3 : CasasEmCurso.step cofre textos (com [casa cofre 'a'] [.encerrada true])
      (lerSalvar "" 'c') = _ := step_segunda disponivel ideal
  have s4 : CasasEmCurso.step cofre textos (com [casa cofre 'a'] ([.encerrada true] ++
      [segunda cofre])) (lerRotacao 'b') = _ := step_rotacao disponivel ideal
  have s5 : CasasEmCurso.step cofre textos (com [casa cofre 'a'] ([.encerrada true] ++
      [segunda cofre] ++ [rotacao cofre])) (.gravar 2) = _ := step_gravarRotacao rfl
  have s6 : CasasEmCurso.step cofre textos (com [casa cofre 'b'] (([ChamadaDaCasa.encerrada true] ++
      [segunda cofre] ++ [rotacao cofre]).set 2 (.encerrada true))) (.gravar 1) = _ :=
    step_gravarSegunda rfl
  simp only [salvarEmVoltaDaRotacao, runFrom_cons, runFrom_nil, withHistory, s1, s2, s3, s4, s5,
    s6] at last
  have none := last ((1, .pagbank), cofre.hashDeWebhook (sorteado 'a').val) (List.Mem.head _)
    (sorteado 'a').val rfl
  have long : ¬ comprimento (sorteado 'a').val < 16 := by decide
  rw [CasasDePagamento.porSegredoDeWebhook, if_neg long, List.find?_eq_none] at none
  have found := none (casa cofre 'a') (List.Mem.head _)
  simp [casa, dados] at found

/-- The rotation after the save meets the condition. -/
theorem rotacaoDepois_guarda :
    EachStep (withHistory (CasasEmCurso.step cofre textos) registrar) SemRotacaoNoMeio
      (com [] [], Memoria.vazia) rotacaoDepois := by
  have s1 := step_primeira disponivel
  have s2 : CasasEmCurso.step cofre textos (com [] [primeira cofre]) (.gravar 0) = _ :=
    step_gravarPrimeira
  have s3 : CasasEmCurso.step cofre textos (com [casa cofre 'a'] [.encerrada true])
      (lerSalvar "" 'c') = _ := step_segunda disponivel ideal
  have s4 : CasasEmCurso.step cofre textos (com [casa cofre 'a'] ([.encerrada true] ++
      [segunda cofre])) (.gravar 1) = com [casa cofre 'a'] [.encerrada true, .encerrada true] :=
    step_gravarSegunda rfl
  have s5 : CasasEmCurso.step cofre textos (com [casa cofre 'a'] [.encerrada true, .encerrada true])
      (lerRotacao 'b') = _ := step_rotacao disponivel ideal
  simp only [rotacaoDepois, eachStep_cons, withHistory, s1, s2, s3, s4, s5]
  refine ⟨guarda_ler rfl ?_, ⟨fun _ drawn => ?_, fun i _ _ _ _ _ _ is call => ?_⟩,
    guarda_ler rfl ?_, ⟨fun _ drawn => ?_, fun i _ _ _ _ _ visto is call _ => ?_⟩,
    guarda_ler rfl ?_, ⟨fun _ drawn => ?_, fun i _ _ _ _ _ _ is call => ?_⟩, trivial⟩
  · exact List.not_mem_nil
  · cases drawn
  · obtain rfl := Acao.gravar.inj is
    cases Option.some.inj call
  · change _ ∉ [(sorteado 'a').val]
    decide
  · cases drawn
  · change _ ∉ ([] : List (Id × PaymentProvider)).drop visto.2
    rw [List.drop_nil]
    exact List.not_mem_nil
  · change _ ∉ [(sorteado 'a').val, (sorteado 'c').val]
    decide
  · cases drawn
  · obtain rfl := Acao.gravar.inj is
    cases Option.some.inj call

end Corridas

end UmaCasa

/-- A save and then a rotation: the first secret stays out of use. -/
theorem segredosRevogados_run_rotacaoDepois :
    Always (withHistory (CasasEmCurso.step UmaCasa.cofre UmaCasa.textos) CasasEmCurso.registrar)
      (CasasEmCurso.RevogadosForaDeUso UmaCasa.cofre)
      (UmaCasa.com [] [], CasasEmCurso.Memoria.vazia) UmaCasa.rotacaoDepois :=
  CasasEmCurso.segredosRevogados_run UmaCasa.cofre UmaCasa.textos UmaCasa.cofre_abre
    UmaCasa.cofre_semColisao (UmaCasa.com [] []) rfl rfl UmaCasa.rotacaoDepois
    (UmaCasa.rotacaoDepois_guarda rfl UmaCasa.cofre_abre)

/-- A save that read the house before a rotation writes the revoked secret back after it. -/
theorem segredosRevogados_salvarEmVolta :
    UmaCasa.cofre.Abre ∧ UmaCasa.cofre.SemColisao ∧
      ¬ Always (withHistory (CasasEmCurso.step UmaCasa.cofre UmaCasa.textos)
          CasasEmCurso.registrar)
        (CasasEmCurso.RevogadosForaDeUso UmaCasa.cofre)
        (UmaCasa.com [] [], CasasEmCurso.Memoria.vazia) UmaCasa.salvarEmVoltaDaRotacao :=
  ⟨UmaCasa.cofre_abre, UmaCasa.cofre_semColisao, UmaCasa.volta rfl UmaCasa.cofre_abre⟩

end IccvBackend
