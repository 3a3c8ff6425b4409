/-
Module: IccvBackend.Proofs.ImageWorkers
Purpose: The images of a PDF across any interleaving of calls, workers and downloads: each distinct
  request is served once by its own download, at most thirty-two at a time, and no failure stays in
  the cache.
Trusted boundary: none
Main exports: Imagens.CacheEmOrdem, Imagens.PreparoEmOrdem, Imagens.Completo, imagens_run
-/
import IccvBackend.Lib.Trail
import IccvBackend.Pdf.Imagens

namespace IccvBackend

open Lib

namespace Imagens

variable {s s' : Imagens} {preparo : Preparo} {pedido : PedidoDeImagem} {c w i p : Nat}

/-! ### The laws -/

/-- The cache: one entry a key, never more than fit, each the download of its key, none a
failure. -/
structure CacheEmOrdem (s : Imagens) : Prop where
  uma : (s.cache.map Prod.fst).Nodup
  cabe : s.cache.length ≤ limiteDoCache
  da_chave : ∀ entry ∈ s.cache, ∃ download, s.downloads[entry.2]? = some download ∧
    download.pedido.chave = entry.1 ∧ download.valor ≠ some none

/-- Download `p` is one of what job `i` of the call asks for. -/
def Serve (s : Imagens) (preparo : Preparo) (i p : Nat) : Prop :=
  ∃ pedido download, preparo.unicos[i]? = some pedido ∧ s.downloads[p]? = some download ∧
    download.pedido.chave = pedido.chave

/-- A call under way. -/
structure PreparoEmOrdem (s : Imagens) (preparo : Preparo) : Prop where
  unicos : preparo.unicos.Nodup
  quantos : preparo.trabalhadores.workers.length = min concorrencia preparo.unicos.length
  uma_vez : WorkerPool.Dealt preparo.unicos.length preparo.trabalhadores
  nas_maos : ∀ i p, .busy i p ∈ preparo.trabalhadores.workers → s.Serve preparo i p
  feitos : ∀ job ∈ preparo.trabalhadores.finished, s.Serve preparo job.1 job.2 ∧
    ∃ download valor, s.downloads[job.2]? = some download ∧ download.valor = some valor
  resultado : ∀ entry, entry ∈ preparo.resultado ↔
    ∃ job ∈ preparo.trabalhadores.finished, ∃ pedido download,
      preparo.unicos[job.1]? = some pedido ∧ pedido.chave = entry.1 ∧
      s.downloads[job.2]? = some download ∧ download.valor = some (some entry.2)

/-- Nobody stands idle: a worker waits for a download, or found no job left. -/
def SemOciosos (preparo : Preparo) : Prop := .idle ∉ preparo.trabalhadores.workers

/-- Once every worker is through, each distinct request has the outcome of one download of its own
key in the result: the image, or nothing if that download failed. -/
def Completo (s : Imagens) (preparo : Preparo) : Prop :=
  (∀ worker ∈ preparo.trabalhadores.workers, worker = .resting) → ∀ pedido ∈ preparo.unicos,
    ∃ (p : Nat) (download : Download) (valor : Option String), s.downloads[p]? = some download ∧
      download.pedido.chave = pedido.chave ∧ download.valor = some valor ∧
      ∀ dataUri, (pedido.chave, dataUri) ∈ preparo.resultado ↔ valor = some dataUri

structure EmOrdem (s : Imagens) : Prop where
  cache : s.CacheEmOrdem
  preparos : ∀ preparo ∈ s.preparos, s.PreparoEmOrdem preparo

/-! ### Keys -/

theorem chave_injective : Function.Injective PedidoDeImagem.chave := by
  rintro ⟨url, formato⟩ ⟨url', formato'⟩ same
  have chars := congrArg String.toList same
  simp only [PedidoDeImagem.chave, String.toList_append] at chars
  cases formato <;> cases formato' <;>
    simp_all [FormatoDeImagem.nome, String.ext_iff]

/-! ### Downloads only move forward -/

/-- The downloads of before are there, and those that were settled stay as they were. -/
def Seguiu (s s' : Imagens) : Prop :=
  ∀ (p : Nat) (download : Download), s.downloads[p]? = some download →
    ∃ download', s'.downloads[p]? = some download' ∧ download'.pedido = download.pedido ∧
      ∀ valor, download.valor = some valor → download'.valor = some valor

theorem Seguiu.refl (s : Imagens) : s.Seguiu s :=
  fun _ download found => ⟨download, found, rfl, fun _ h => h⟩

theorem Serve.seguiu (serves : s.Serve preparo i p) (on : s.Seguiu s') : s'.Serve preparo i p := by
  obtain ⟨pedido, download, asked, found, key⟩ := serves
  obtain ⟨download', found', same, _⟩ := on p download found
  exact ⟨pedido, download', asked, found', by rw [same, key]⟩

theorem PreparoEmOrdem.seguiu (order : s.PreparoEmOrdem preparo) (on : s.Seguiu s') :
    s'.PreparoEmOrdem preparo where
  unicos := order.unicos
  quantos := order.quantos
  uma_vez := order.uma_vez
  nas_maos i p held := (order.nas_maos i p held).seguiu on
  feitos job mem := by
    obtain ⟨serves, download, valor, found, settled⟩ := order.feitos job mem
    obtain ⟨download', found', _, stays⟩ := on job.2 download found
    exact ⟨serves.seguiu on, download', valor, found', stays valor settled⟩
  resultado entry := by
    rw [order.resultado entry]
    refine exists_congr fun job => and_congr_right fun mem => exists_congr fun pedido => ?_
    obtain ⟨_, before, valor, found, settled⟩ := order.feitos job mem
    obtain ⟨after, found', _, stays⟩ := on job.2 before found
    simp only [found, found', Option.some.injEq, exists_and_left, exists_eq_left']
    rw [settled, stays valor settled]

/-! ### The cache -/

theorem mem_of_emCache {chave : String}
    (hit : s.emCache chave = some p) : (chave, p) ∈ s.cache := by
  obtain ⟨entry, found, rfl⟩ := Option.map_eq_some_iff.mp hit
  have key : entry.1 = chave := by simpa using List.find?_some found
  exact key ▸ List.mem_of_find?_eq_some found

theorem not_mem_of_emCache {chave : String} (miss : s.emCache chave = none) :
    chave ∉ s.cache.map Prod.fst := by
  have nobody := List.find?_eq_none.mp (Option.map_eq_none_iff.mp miss)
  rintro mem
  obtain ⟨entry, here, key⟩ := List.mem_map.mp mem
  exact nobody entry here (decide_eq_true key)

theorem CacheEmOrdem.seguiu (order : s.CacheEmOrdem) (same : s'.cache = s.cache)
    (downloads : s'.downloads = s.downloads) : s'.CacheEmOrdem :=
  ⟨same ▸ order.uma, same ▸ order.cabe, same ▸ downloads ▸ order.da_chave⟩

/-- What `baixarReduzida` does: the order is kept, the downloads go on, the calls stay, and the
download it gives is one of the key. -/
theorem baixarReduzida_spec (order : s.CacheEmOrdem) (pedido : PedidoDeImagem) :
    (s.baixarReduzida pedido).1.CacheEmOrdem ∧ s.Seguiu (s.baixarReduzida pedido).1 ∧
      (s.baixarReduzida pedido).1.preparos = s.preparos ∧
      ∃ download, (s.baixarReduzida pedido).1.downloads[(s.baixarReduzida pedido).2]? =
        some download ∧ download.pedido.chave = pedido.chave := by
  unfold baixarReduzida
  cases hit : s.emCache pedido.chave with
  | some p =>
      obtain ⟨download, found, key, _⟩ := order.da_chave _ (mem_of_emCache hit)
      exact ⟨order, .refl s, rfl, download, found, key⟩
  | none =>
      have fresh := not_mem_of_emCache hit
      have started : (s.downloads ++ [(⟨pedido, none⟩ : Download)])[s.downloads.length]? =
          some ⟨pedido, none⟩ := List.getElem?_concat_length
      have kept : ∀ entry ∈ s.cache, ∃ download,
          (s.downloads ++ [(⟨pedido, none⟩ : Download)])[entry.2]? = some download ∧
            download.pedido.chave = entry.1 ∧ download.valor ≠ some none := by
        intro entry mem
        obtain ⟨download, found, rest⟩ := order.da_chave entry mem
        refine ⟨download, ?_, rest⟩
        rw [List.getElem?_append_left (List.getElem?_eq_some_iff.mp found).1, found]
      refine ⟨?_, fun p download found => ⟨download, ?_, rfl, fun _ h => h⟩, rfl, _, started, rfl⟩
      · -- the oldest key leaves a full cache
        have sub : (if limiteDoCache ≤ s.cache.length then s.cache.tail else s.cache).Sublist
            s.cache := by
          split
          · exact List.tail_sublist s.cache
          · exact List.Sublist.refl _
        have room : (if limiteDoCache ≤ s.cache.length then s.cache.tail else s.cache).length <
            limiteDoCache := by
          have fits := order.cabe
          split
          · rw [List.length_tail]
            have : 0 < limiteDoCache := by decide
            omega
          · omega
        refine ⟨?_, ?_, fun entry mem => ?_⟩
        · simp only [guardar, List.map_append, List.map_cons, List.map_nil]
          refine List.nodup_append.mpr ⟨order.uma.sublist (sub.map _), List.nodup_singleton _, ?_⟩
          rintro _ old _ new rfl
          obtain rfl := List.mem_singleton.mp new
          exact fresh ((sub.map Prod.fst).subset old)
        · simp only [guardar, List.length_append, List.length_singleton]
          exact room
        · simp only [guardar, List.mem_append, List.mem_singleton] at mem
          rcases mem with old | rfl
          · exact kept entry (sub.subset old)
          · exact ⟨_, started, rfl, nofun⟩
      · show (s.downloads ++ [_])[p]? = some download
        rw [List.getElem?_append_left (List.getElem?_eq_some_iff.mp found).1, found]

/-! ### A worker goes round the loop -/

theorem EmOrdem.comPreparo (order : s.EmOrdem) (moved : s.PreparoEmOrdem preparo) (c : Nat) :
    (s.comPreparo c preparo).EmOrdem where
  cache := order.cache.seguiu rfl rfl
  preparos other mem := by
    have here : s.PreparoEmOrdem other := by
      rcases List.mem_or_eq_of_mem_set mem with old | rfl
      · exact order.preparos other old
      · exact moved
    exact here.seguiu (.refl s)

/-- What `pegar` does to an idle worker: the order is kept, and that worker is idle no more. -/
theorem pegar_spec (order : s.EmOrdem) (call : s.preparos[c]? = some preparo)
    (free : preparo.trabalhadores.workers[w]? = some .idle) :
    (s.pegar c w).EmOrdem ∧ ∃ worker preparo', worker ≠ .idle ∧
      preparo'.trabalhadores.workers = preparo.trabalhadores.workers.set w worker ∧
      (s.pegar c w).preparos = s.preparos.set c preparo' := by
  have here := order.preparos preparo (List.mem_of_getElem? call)
  unfold pegar
  rw [call]
  dsimp only
  split
  · rename_i pedido asked
    obtain ⟨cache, on, calls, download, found, key⟩ := baixarReduzida_spec order.cache pedido
    have left := (List.getElem?_eq_some_iff.mp asked).1
    have after : (s.baixarReduzida pedido).1.EmOrdem :=
      ⟨cache, fun other mem => (order.preparos other (calls ▸ mem)).seguiu on⟩
    have here := here.seguiu on
    have moved : (s.baixarReduzida pedido).1.PreparoEmOrdem { preparo with
        trabalhadores := preparo.trabalhadores.take w (s.baixarReduzida pedido).2 } := {
      unicos := here.unicos
      quantos := by
        show (preparo.trabalhadores.workers.set w _).length = _
        rw [List.length_set, here.quantos]
      uma_vez := here.uma_vez.take left free _
      nas_maos := fun i p held => by
        rcases List.mem_or_eq_of_mem_set held with old | new
        · exact here.nas_maos i p old
        · cases new
          exact ⟨pedido, download, asked, found, key⟩
      feitos := here.feitos
      resultado := here.resultado }
    exact ⟨after.comPreparo moved c, .busy _ _, _, nofun, rfl, by rw [comPreparo, calls]⟩
  · rename_i nothing
    have none_left : ¬ preparo.trabalhadores.next < preparo.unicos.length := fun less =>
      absurd (List.getElem?_eq_none_iff.mp nothing) (Nat.not_le.mpr less)
    have moved : s.PreparoEmOrdem { preparo with
        trabalhadores := preparo.trabalhadores.rest w } := {
      unicos := here.unicos
      quantos := by
        show (preparo.trabalhadores.workers.set w _).length = _
        rw [List.length_set, here.quantos]
      uma_vez := here.uma_vez.rest none_left free
      nas_maos := fun i p held => by
        rcases List.mem_or_eq_of_mem_set held with old | new
        · exact here.nas_maos i p old
        · cases new
      feitos := here.feitos
      resultado := here.resultado }
    exact ⟨order.comPreparo moved c, .resting, _, nofun, rfl, rfl⟩

/-- Every call but those of a place has no idle worker. -/
def SoOciososEm (s : Imagens) (c : Nat) : Prop :=
  ∀ (c' : Nat) preparo, s.preparos[c']? = some preparo → c' ≠ c → SemOciosos preparo

theorem soOciososEm_pegar {preparo' : Preparo} (others : s.SoOciososEm c)
    (calls : s'.preparos = s.preparos.set c preparo') : s'.SoOciososEm c := by
  intro c' other found ne
  rw [calls, List.getElem?_set_ne (Ne.symm ne)] at found
  exact others c' other found ne

/-- The workers of a new call start one after the other. -/
theorem iniciar_spec (workers : List Nat) (order : s.EmOrdem) (others : s.SoOciososEm c)
    (call : s.preparos[c]? = some preparo)
    (free : ∀ w, preparo.trabalhadores.workers[w]? = some .idle ↔ w ∈ workers)
    (once : workers.Nodup) :
    (runFrom (fun (s : Imagens) w => s.pegar c w) s workers).EmOrdem ∧
      ∀ preparo ∈ (runFrom (fun (s : Imagens) w => s.pegar c w) s workers).preparos,
        SemOciosos preparo := by
  induction workers generalizing s preparo with
  | nil =>
      refine ⟨order, fun other mem idle => ?_⟩
      obtain ⟨c', found⟩ := List.mem_iff_getElem?.mp mem
      by_cases same : c' = c
      · subst same
        obtain rfl := Option.some.inj (call.symm.trans found)
        obtain ⟨w, standing⟩ := List.mem_iff_getElem?.mp idle
        exact absurd ((free w).mp standing) List.not_mem_nil
      · exact others c' other found same idle
  | cons w workers ih =>
      obtain ⟨unique, once⟩ := List.nodup_cons.mp once
      have standing := (free w).mpr List.mem_cons_self
      obtain ⟨after, worker, preparo', busy, set, calls⟩ := pegar_spec order call standing
      have moved : (s.pegar c w).preparos[c]? = some preparo' := by
        rw [calls, getElem?_moved_self call]
      refine ih after (soOciososEm_pegar others calls) moved (fun w' => ?_) once
      rw [set]
      by_cases same : w' = w
      · subst same
        rw [getElem?_moved_self standing]
        simp [busy, unique]
      · rw [List.getElem?_set_ne (Ne.symm same), free w', List.mem_cons]
        simp [same]

/-- The order, with nobody idle: what holds between two events. -/
structure EmDia (s : Imagens) : Prop extends EmOrdem s where
  ocupados : ∀ preparo ∈ s.preparos, SemOciosos preparo

theorem EmDia.preparar (kept : s.EmDia) (pedidos : List PedidoDeImagem) :
    (s.prepararImagens pedidos).EmDia := by
  have came : ({ s with preparos := s.preparos ++ [⟨pedidos.eraseDups,
      WorkerPool.start (min concorrencia pedidos.eraseDups.length), []⟩] } : Imagens).EmOrdem := by
    refine ⟨kept.cache.seguiu rfl rfl, fun preparo mem => ?_⟩
    rcases List.mem_append.mp mem with old | new
    · exact (kept.preparos preparo old).seguiu (.refl s)
    · obtain rfl := List.mem_singleton.mp new
      exact {
        unicos := nodup_eraseDups pedidos
        quantos := List.length_replicate
        uma_vez := WorkerPool.Dealt.start _ _
        nas_maos := fun i p held => nomatch List.eq_of_mem_replicate held
        feitos := nofun
        resultado := by simp [WorkerPool.start] }
  have others : ({ s with preparos := s.preparos ++ [⟨pedidos.eraseDups,
      WorkerPool.start (min concorrencia pedidos.eraseDups.length), []⟩] } : Imagens).SoOciososEm
        s.preparos.length := by
    intro c preparo found ne
    rcases getElem?_begun found with old | ⟨last, _⟩
    · exact kept.ocupados preparo (List.mem_of_getElem? old)
    · exact absurd last ne
  have started := iniciar_spec (List.range (min concorrencia pedidos.eraseDups.length)) came others
    List.getElem?_concat_length (fun w => by
      simp [WorkerPool.start, List.getElem?_replicate]) List.nodup_range
  exact ⟨started.1, started.2⟩

/-! ### A download is settled -/

theorem seguiu_resolver (s : Imagens) (p : Nat) (valor : Option String) :
    s.Seguiu (s.resolver p valor) := by
  unfold resolver
  split
  · rename_i pedido pending
    intro q download found
    by_cases same : q = p
    · subst same
      obtain rfl := Option.some.inj (pending.symm.trans found)
      exact ⟨_, getElem?_moved_self pending, rfl, nofun⟩
    · exact ⟨download, by rw [List.getElem?_set_ne (Ne.symm same), found], rfl, fun _ h => h⟩
  · exact .refl s

theorem CacheEmOrdem.resolver (order : s.CacheEmOrdem) (p : Nat) (valor : Option String) :
    (s.resolver p valor).CacheEmOrdem := by
  have on := seguiu_resolver s p valor
  unfold Imagens.resolver at on ⊢
  split
  · rename_i pedido pending
    have other : ∀ entry ∈ s.cache, entry.2 ≠ p → ∃ download,
        (s.downloads.set p ⟨pedido, some valor⟩)[entry.2]? = some download ∧
          download.pedido.chave = entry.1 ∧ download.valor ≠ some none := by
      intro entry mem ne
      obtain ⟨download, found, rest⟩ := order.da_chave entry mem
      exact ⟨download, by rw [List.getElem?_set_ne (Ne.symm ne), found], rest⟩
    have own : ∀ entry ∈ s.cache, entry.2 = p → entry.1 = pedido.chave := by
      rintro entry mem rfl
      obtain ⟨download, found, key, _⟩ := order.da_chave entry mem
      rw [pending] at found
      rw [← key, ← Option.some.inj found]
    cases valor with
    | some dataUri =>
        refine ⟨order.uma, order.cabe, fun entry mem => ?_⟩
        by_cases mine : entry.2 = p
        · have settled : (s.downloads.set p ⟨pedido, some (some dataUri)⟩)[entry.2]? =
              some ⟨pedido, some (some dataUri)⟩ := by rw [mine, getElem?_moved_self pending]
          exact ⟨_, settled, (own entry mem mine).symm, by simp⟩
        · exact other entry mem mine
    | none =>
        refine ⟨order.uma.sublist (List.filter_sublist.map _),
          Nat.le_trans (List.length_filter_le _ _) order.cabe, fun entry mem => ?_⟩
        obtain ⟨mem, stays⟩ := List.mem_filter.mp mem
        refine other entry mem fun mine => ?_
        exact absurd (own entry mem mine) (by simpa using stays)
  · exact order

theorem EmDia.resolver (kept : s.EmDia) (p : Nat) (valor : Option String) :
    (s.resolver p valor).EmDia := by
  have on := seguiu_resolver s p valor
  have calls : (s.resolver p valor).preparos = s.preparos := by
    unfold Imagens.resolver
    split <;> rfl
  exact {
    cache := kept.cache.resolver p valor
    preparos := fun preparo mem => (kept.preparos preparo (calls ▸ mem)).seguiu on
    ocupados := calls ▸ kept.ocupados }

/-! ### A worker goes on -/

/-- The result does not have the key of a job that is still in somebody's hands. -/
theorem PreparoEmOrdem.chave_nova (order : s.PreparoEmOrdem preparo)
    (held : .busy i p ∈ preparo.trabalhadores.workers) (asked : preparo.unicos[i]? = some pedido) :
    ∀ entry ∈ preparo.resultado, entry.1 ≠ pedido.chave := by
  intro entry mem same
  obtain ⟨job, done, other, _, asked', key, _⟩ := (order.resultado entry).mp mem
  have one : other = pedido := chave_injective (key.trans same)
  subst one
  -- the same request at two places, one done and one in hands
  obtain ⟨inside, here⟩ := List.getElem?_eq_some_iff.mp asked
  obtain ⟨inside', here'⟩ := List.getElem?_eq_some_iff.mp asked'
  have place : job.1 = i := (order.unicos.getElem_inj_iff).mp (here'.trans here.symm)
  have nodup := order.uma_vez.once.nodup_iff.mpr List.nodup_range
  have apart := (List.nodup_append.mp nodup).2.2
  exact apart i (List.mem_filterMap.mpr ⟨_, held, rfl⟩) job.1 (List.mem_map_of_mem done) place.symm

theorem anotar_eq {resultado : List (String × String)} {chave dataUri : String}
    (fresh : ∀ entry ∈ resultado, entry.1 ≠ chave) :
    anotar resultado chave dataUri = resultado ++ [(chave, dataUri)] := by
  unfold anotar
  rw [if_neg]
  simpa using fun dataUri mem => fresh (chave, dataUri) mem rfl

/-- The call once worker `w` noted what its download gave. -/
theorem PreparoEmOrdem.anotar (order : s.PreparoEmOrdem preparo) {valor : Option String}
    {download : Download} (held : preparo.trabalhadores.workers[w]? = some (.busy i p))
    (asked : preparo.unicos[i]? = some pedido) (found : s.downloads[p]? = some download)
    (settled : download.valor = some valor) :
    s.PreparoEmOrdem { preparo with
      trabalhadores := preparo.trabalhadores.finish w i p
      resultado := anotarSe preparo.resultado pedido.chave valor } where
  unicos := order.unicos
  quantos := by
    show (preparo.trabalhadores.workers.set w _).length = _
    rw [List.length_set, order.quantos]
  uma_vez := order.uma_vez.finish held
  nas_maos j q inHands := by
    rcases List.mem_or_eq_of_mem_set inHands with old | new
    · exact order.nas_maos j q old
    · cases new
  feitos job mem := by
    rcases List.mem_append.mp mem with old | new
    · exact order.feitos job old
    · obtain rfl := List.mem_singleton.mp new
      exact ⟨order.nas_maos i p (List.mem_of_getElem? held), download, valor, found, settled⟩
  resultado entry := by
    have before := order.resultado entry
    have now : (∃ job ∈ preparo.trabalhadores.finished ++ [(i, p)], ∃ pedido download,
        preparo.unicos[job.1]? = some pedido ∧ pedido.chave = entry.1 ∧
        s.downloads[job.2]? = some download ∧ download.valor = some (some entry.2)) ↔
        entry ∈ preparo.resultado ∨ (pedido.chave = entry.1 ∧ valor = some entry.2) := by
      rw [before]
      constructor
      · rintro ⟨job, mem, other, download', asked', key, found', value⟩
        rcases List.mem_append.mp mem with old | new
        · exact .inl ⟨job, old, other, download', asked', key, found', value⟩
        · obtain rfl := List.mem_singleton.mp new
          obtain rfl := Option.some.inj (asked.symm.trans asked')
          obtain rfl := Option.some.inj (found.symm.trans found')
          exact .inr ⟨key, Option.some.inj (settled.symm.trans value)⟩
      · rintro (⟨job, mem, rest⟩ | ⟨key, value⟩)
        · exact ⟨job, List.mem_append_left _ mem, rest⟩
        · exact ⟨(i, p), List.mem_append_right _ (List.mem_singleton_self _), pedido, download,
            asked, key, found, by rw [settled, value]⟩
    refine Iff.trans ?_ now.symm
    cases valor with
    | none => simp [anotarSe]
    | some dataUri =>
        show entry ∈ Imagens.anotar preparo.resultado pedido.chave dataUri ↔ _
        rw [anotar_eq (order.chave_nova (List.mem_of_getElem? held) asked), List.mem_append,
          List.mem_singleton]
        refine or_congr_right ?_
        rw [Prod.ext_iff, Option.some.injEq, eq_comm, @eq_comm _ dataUri]

theorem EmDia.continuar (kept : s.EmDia) (c w : Nat) : (s.continuar c w).EmDia := by
  unfold Imagens.continuar
  split
  · exact kept
  · rename_i preparo call
    have here := kept.preparos preparo (List.mem_of_getElem? call)
    split
    · rename_i i p held
      split
      · rename_i valor pedido value asked
        obtain ⟨download, found, settled⟩ := Option.bind_eq_some_iff.mp value
        have noted := here.anotar held asked found settled
        have after := kept.toEmOrdem.comPreparo noted c
        have moved : (s.comPreparo c { preparo with
            trabalhadores := preparo.trabalhadores.finish w i p
            resultado := anotarSe preparo.resultado pedido.chave valor }).preparos[c]? = _ :=
          getElem?_moved_self call
        obtain ⟨order, worker, preparo', busy, set, calls⟩ :=
          pegar_spec after moved (getElem?_moved_self held)
        refine ⟨order, fun other mem => ?_⟩
        rw [calls] at mem
        obtain ⟨c', place⟩ := List.mem_iff_getElem?.mp mem
        rcases getElem?_moved place with ⟨_, rfl⟩ | ⟨ne, old⟩
        · intro idle
          rw [set] at idle
          -- of the workers of the call only this one was idle
          obtain ⟨w', standing⟩ := List.mem_iff_getElem?.mp idle
          rcases getElem?_moved standing with ⟨_, same⟩ | ⟨ne', before⟩
          · exact busy same.symm
          · rcases getElem?_moved before with ⟨same', _⟩ | ⟨_, first⟩
            · exact ne' same'
            · exact kept.ocupados preparo (List.mem_of_getElem? call) (List.mem_of_getElem? first)
        · rcases getElem?_moved old with ⟨same, _⟩ | ⟨_, first⟩
          · exact absurd same ne
          · exact kept.ocupados other (List.mem_of_getElem? first)
      · exact kept
    · exact kept

/-! ### Whole runs -/

theorem PreparoEmOrdem.completo (order : s.PreparoEmOrdem preparo) : s.Completo preparo := by
  intro all pedido asked
  obtain ⟨i, place⟩ := List.mem_iff_getElem?.mp asked
  have inside := (List.getElem?_eq_some_iff.mp place).1
  have somebody : preparo.trabalhadores.workers ≠ [] := by
    have many := order.quantos
    have : 0 < concorrencia := by decide
    rintro nobody
    rw [nobody, List.length_nil] at many
    omega
  have done := (order.uma_vez.complete somebody all).mem_iff.mpr (List.mem_range.mpr inside)
  obtain ⟨job, mem, rfl⟩ := List.mem_map.mp done
  obtain ⟨⟨pedido', download, place', found, key⟩, download', valor, found', settled⟩ :=
    order.feitos job mem
  obtain rfl := Option.some.inj (place.symm.trans place')
  obtain rfl := Option.some.inj (found.symm.trans found')
  refine ⟨job.2, download, valor, found, key, settled, fun dataUri => ?_⟩
  rw [order.resultado]
  constructor
  · rintro ⟨other, mem', twin, image, placed, key', gave, value⟩
    -- the other job is this one: the requests are distinct
    have same : twin = pedido := chave_injective key'
    obtain ⟨_, here⟩ := List.getElem?_eq_some_iff.mp place
    obtain ⟨_, here'⟩ := List.getElem?_eq_some_iff.mp (same ▸ placed)
    have first : other.1 = job.1 := (order.unicos.getElem_inj_iff).mp (here'.trans here.symm)
    have nodup := order.uma_vez.once.nodup_iff.mpr List.nodup_range
    have one : other = job :=
      List.inj_on_of_nodup_map (List.nodup_append.mp nodup).2.1 mem' mem first
    subst one
    obtain rfl := Option.some.inj (found.symm.trans gave)
    exact Option.some.inj (settled.symm.trans value)
  · rintro rfl
    exact ⟨job, mem, pedido, download, place, rfl, found, settled⟩

theorem EmDia.agir (kept : s.EmDia) (a : Acao) : (s.agir a).EmDia := by
  cases a with
  | preparar pedidos => exact kept.preparar pedidos
  | resolver p valor => exact kept.resolver p valor
  | continuar c w => exact kept.continuar c w

theorem emDia_vazio : vazio.EmDia :=
  ⟨⟨⟨List.nodup_nil, Nat.zero_le _, nofun⟩, nofun⟩, nofun⟩

end Imagens

open Imagens

/-- In every interleaving of calls, workers and downloads the cache holds one download a key, at
most three thousand and no failure; and of each call every distinct request is dealt to one worker
once, no more than thirty-two wait at a time, nobody stands idle, and when all are through each
request has in the result what the one download of its own key gave. -/
theorem imagens_run (acoes : List Imagens.Acao) :
    Always agir (fun s => s.CacheEmOrdem ∧ ∀ preparo ∈ s.preparos,
      s.PreparoEmOrdem preparo ∧ SemOciosos preparo ∧ s.Completo preparo) vazio acoes := by
  have kept : Always agir EmDia vazio acoes :=
    always_of_step (fun _ a kept => kept.agir a) emDia_vazio acoes
  refine kept.mono fun _ state => ⟨state.cache, fun preparo mem => ?_⟩
  have order := state.preparos preparo mem
  exact ⟨order, state.ocupados preparo mem, order.completo⟩

end IccvBackend
