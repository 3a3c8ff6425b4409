/-
Module: IccvBackend.Proofs.NewsDestinations
Purpose: When a news goes only to groups of its own church, over all orders of publishing, editing
  and moving events; and what the loose links of a news look like.
Trusted boundary: none
Main exports: Codigo, extraiCodigoDoConvite_linkDoCodigo, Redacao.LinksDeGrupo, Redacao.NaIgreja,
  Redacao.MantemAIgreja, noticias_na_igreja_run_iff
-/
import IccvBackend.Lib.Keyed
import IccvBackend.Lib.Trail
import IccvBackend.Lib.Upsert
import IccvBackend.News.Publicacao
import IccvBackend.Proofs.WordPairing
import Mathlib.Data.List.TakeWhile

namespace IccvBackend

open Lib

/-! ### The code of a link -/

section Codigo

variable {codigo texto : List Char}

/-- What the regex captures. -/
structure Codigo (codigo : List Char) : Prop where
  cheio : codigo ≠ []
  letras : ∀ c ∈ codigo, doCodigo c = true

theorem codigoNoInicio_ok (ok : codigoNoInicio texto = some codigo) : Codigo codigo := by
  unfold codigoNoInicio at ok
  split at ok
  · cases ok
  · next full =>
      cases ok
      exact ⟨full, fun c mem => List.mem_takeWhile_imp mem⟩

theorem codigoDepoisDoHospedeiro_ok (ok : codigoDepoisDoHospedeiro texto = some codigo) :
    Codigo codigo := by
  unfold codigoDepoisDoHospedeiro at ok
  split at ok
  · rcases Option.or_eq_some_iff.mp ok with first | ⟨_, second⟩
    · exact codigoNoInicio_ok first
    · exact codigoNoInicio_ok second
  · exact codigoNoInicio_ok ok

theorem codigoDoLink_ok (ok : codigoDoLink texto = some codigo) : Codigo codigo := by
  induction texto with
  | nil => cases ok
  | cons c resto ih =>
      unfold codigoDoLink at ok
      rcases Option.or_eq_some_iff.mp ok with here | ⟨_, later⟩
      · split at here
        · exact codigoDepoisDoHospedeiro_ok here
        · cases here
      · exact ih later

theorem extraiCodigoDoConvite_ok (ok : extraiCodigoDoConvite texto = some codigo) :
    Codigo codigo := by
  unfold extraiCodigoDoConvite at ok
  simp only at ok
  split at ok
  · cases ok
  · next full =>
      split at ok
      · next found =>
          cases ok
          exact codigoDoLink_ok found
      · split at ok
        · next letters =>
            cases ok
            simp only [Bool.and_eq_true, List.all_eq_true] at letters
            exact ⟨full, letters.1.1⟩
        · cases ok

theorem toNat_of_doCodigo {c : Char} (letra : doCodigo c = true) :
    (0x41 ≤ c.toNat ∧ c.toNat ≤ 0x5a) ∨ (0x61 ≤ c.toNat ∧ c.toNat ≤ 0x7a) ∨
      (0x30 ≤ c.toNat ∧ c.toNat ≤ 0x39) := by
  simpa [doCodigo, or_assoc, Char.le_def, UInt32.le_iff_toNat_le] using letra

theorem not_branco_of_doCodigo {c : Char} (letra : doCodigo c = true) :
    isBlank c = false := by
  have bounds := toNat_of_doCodigo letra
  rw [Bool.eq_false_iff]
  intro blank
  simp only [isBlank, List.mem_cons, List.not_mem_nil, Bool.or_eq_true, Bool.and_eq_true,
    decide_eq_true_eq, or_false] at blank
  omega

theorem codigoNoInicio_codigo (whole : Codigo codigo) : codigoNoInicio codigo = some codigo := by
  have all : codigo.takeWhile doCodigo = codigo := by
    rw [List.takeWhile_eq_self_iff]
    exact whole.letras
  unfold codigoNoInicio
  rw [all, if_neg whole.cheio]

/-- A code has no bar, and `invite/` has one. -/
theorem not_convite_of_codigo (whole : Codigo codigo) : convite.isPrefixOf codigo = false := by
  rw [Bool.eq_false_iff]
  intro starts
  obtain ⟨rest, same⟩ := List.isPrefixOf_iff_prefix.mp starts
  have bar : '/' ∈ codigo := by
    rw [← same]
    exact List.mem_append_left _ (by decide)
  have letra := whole.letras '/' bar
  revert letra
  decide

/-- The host starts with a letter that the scheme does not have. -/
theorem codigoDoLink_cons {c : Char} (other : c ≠ 'c') (resto : List Char) :
    codigoDoLink (c :: resto) = codigoDoLink resto := by
  have apart : hospedeiro.isPrefixOf (c :: resto) = false := by
    rw [Bool.eq_false_iff]
    intro starts
    rw [List.isPrefixOf_iff_prefix, hospedeiro, List.cons_prefix_cons] at starts
    exact other starts.1.symm
  rw [codigoDoLink, apart]
  simp

theorem codigoDoLink_hospedeiro (whole : Codigo codigo) :
    codigoDoLink (hospedeiro ++ codigo) = some codigo := by
  have here : codigoDepoisDoHospedeiro codigo = some codigo := by
    unfold codigoDepoisDoHospedeiro
    rw [not_convite_of_codigo whole, if_neg Bool.false_ne_true]
    exact codigoNoInicio_codigo whole
  have starts : hospedeiro.isPrefixOf (hospedeiro ++ codigo) = true :=
    List.isPrefixOf_iff_prefix.mpr (List.prefix_append _ _)
  have rest : (hospedeiro ++ codigo).drop hospedeiro.length = codigo := List.drop_left
  generalize whole_text : hospedeiro ++ codigo = texto at starts rest ⊢
  cases texto with
  | nil => cases whole_text
  | cons c resto =>
      rw [codigoDoLink, starts, if_pos rfl, rest, here]
      rfl

/-- A link that was put in its form gives its code back. -/
theorem extraiCodigoDoConvite_linkDoCodigo (whole : Codigo codigo) :
    extraiCodigoDoConvite (linkDoCodigo codigo) = some codigo := by
  have aparado : Planilha.Aparado (linkDoCodigo codigo) := by
    constructor
    · rfl
    · have last := List.getLast?_eq_some_getLast whole.cheio
      rw [linkDoCodigo, List.getLast?_append, last]
      exact not_branco_of_doCodigo (whole.letras _ (List.getLast_mem whole.cheio))
  have found : codigoDoLink (linkDoCodigo codigo) = some codigo := by
    simp only [linkDoCodigo, esquema, List.cons_append, List.nil_append]
    iterate 8 rw [codigoDoLink_cons (by decide)]
    exact codigoDoLink_hospedeiro whole
  have full : linkDoCodigo codigo ≠ [] := by simp [linkDoCodigo, esquema]
  unfold extraiCodigoDoConvite
  rw [Planilha.trim_of_aparado aparado]
  simp only [if_neg full, found]

end Codigo

namespace Publicacao

/-! ### Loose links -/

/-- A link in its form, that is read back as the code it was written from. -/
def LinkDeGrupo (link : List Char) : Prop :=
  ∃ codigo, Codigo codigo ∧ link = linkDoCodigo codigo ∧ extraiCodigoDoConvite link = some codigo

/-- What `normalizaLinks` gives. -/
structure Prontos (links : List (List Char)) : Prop where
  nodup : links.Nodup
  poucos : links.length ≤ maximoDeLinks
  deGrupo : ∀ link ∈ links, LinkDeGrupo link

theorem padronizaLink_ok {link pronto : List Char} (ok : padronizaLink link = .ok pronto) :
    LinkDeGrupo pronto := by
  unfold padronizaLink at ok
  rw [bind_eq_ok_iff] at ok
  obtain ⟨codigo, read, ok⟩ := ok
  rw [pure_eq_ok_iff] at ok
  subst ok
  have whole := extraiCodigoDoConvite_ok (orFail_eq_ok_iff.mp read)
  exact ⟨codigo, whole, rfl, extraiCodigoDoConvite_linkDoCodigo whole⟩

theorem normalizaLinks_ok {links prontos : List (List Char)}
    (ok : normalizaLinks links = .ok prontos) : Prontos prontos := by
  unfold normalizaLinks at ok
  simp only [bind_eq_ok_iff, failIf_eq_ok_iff, pure_eq_ok_iff, mapM_eq_ok_iff] at ok
  obtain ⟨todos, read, _, few, rfl⟩ := ok
  constructor
  · exact nodup_eraseDups todos
  · exact not_lt.mp few
  · intro link mem
    obtain ⟨i, bound, rfl⟩ := List.getElem_of_mem (List.mem_eraseDups.mp mem)
    have there : i < links.length := read.length_eq ▸ bound
    exact padronizaLink_ok (read.get there bound)

namespace Redacao

variable {s : Redacao}

/-- The loose links of the news: each of a group, once for each news, and no more than the limit. -/
structure LinksDeGrupo (s : Redacao) : Prop where
  deGrupo : ∀ l ∈ s.links, LinkDeGrupo l.link
  unicos : (s.links.map fun l => (l.newsId, l.link)).Nodup
  poucos : ∀ newsId, (s.links.filter fun l => l.newsId = newsId).length ≤ maximoDeLinks

/-- Links that are deleted. -/
theorem LinksDeGrupo.filter (law : s.LinksDeGrupo) {depois : Redacao} {p : NewsGroupLink → Bool}
    (kept : depois.links = s.links.filter p) : depois.LinksDeGrupo where
  deGrupo := by
    intro l mem
    rw [kept] at mem
    exact law.deGrupo l (List.mem_filter.mp mem).1
  unicos := by
    rw [kept]
    exact law.unicos.sublist (List.filter_sublist.map _)
  poucos := by
    intro newsId
    rw [kept]
    exact (List.filter_sublist.filter _).length_le.trans (law.poucos newsId)

/-- Links whose result changes. -/
theorem LinksDeGrupo.map (law : s.LinksDeGrupo) {depois : Redacao}
    {f : NewsGroupLink → NewsGroupLink} (changed : depois.links = s.links.map f)
    (newsId_f : ∀ l, (f l).newsId = l.newsId) (link_f : ∀ l, (f l).link = l.link) :
    depois.LinksDeGrupo where
  deGrupo := by
    intro l mem
    rw [changed] at mem
    obtain ⟨old, old_mem, rfl⟩ := List.mem_map.mp mem
    rw [link_f]
    exact law.deGrupo old old_mem
  unicos := by
    rw [changed, List.map_map]
    simpa only [Function.comp_def, newsId_f, link_f] using law.unicos
  poucos := by
    intro newsId
    rw [changed, List.filter_map, List.length_map]
    simpa only [Function.comp_def, newsId_f] using law.poucos newsId

theorem LinksDeGrupo.of_eq (law : s.LinksDeGrupo) {depois : Redacao}
    (same : depois.links = s.links) : depois.LinksDeGrupo :=
  ⟨same ▸ law.deGrupo, same ▸ law.unicos, same ▸ law.poucos⟩

/-- The links of a news become those of a list. -/
theorem LinksDeGrupo.sincronizaLinks (law : s.LinksDeGrupo) (newsId : Id)
    {links : Option (List (List Char))} (prontos : ∀ l, links = some l → Prontos l) :
    (s.sincronizaLinks newsId links).LinksDeGrupo := by
  cases links with
  | none => exact law
  | some links =>
      have prontos := prontos links rfl
      let ficam := s.links.filter fun l => l.newsId ≠ newsId || links.any fun link => l.link = link
      let novos := links.filter fun link =>
        !ficam.any fun l => l.newsId = newsId && l.link = link
      let novo : List Char → NewsGroupLink := fun link => ⟨newsId, link, ⟨none, none⟩⟩
      have ficam_law : LinksDeGrupo { s with links := ficam } := law.filter rfl
      have new_nodup : (novos.map fun link => (newsId, link)).Nodup :=
        (prontos.nodup.filter _).map fun _ _ same => congrArg Prod.snd same
      have unicos : ((s.sincronizaLinks newsId (some links)).links.map fun l =>
          (l.newsId, l.link)).Nodup := by
        change ((ficam ++ novos.map novo).map fun l => (l.newsId, l.link)).Nodup
        rw [List.map_append, List.map_map, List.nodup_append]
        refine ⟨ficam_law.unicos, new_nodup, ?_⟩
        rintro key old _ new rfl
        obtain ⟨l, l_mem, rfl⟩ := List.mem_map.mp old
        obtain ⟨link, link_mem, same⟩ := List.mem_map.mp new
        have absent := (List.mem_filter.mp link_mem).2
        simp only [Bool.not_eq_true', List.any_eq_false] at absent
        apply absent l l_mem
        simp only [Function.comp, novo, Prod.mk.injEq] at same
        simp [same.1, same.2]
      constructor
      · intro l mem
        rcases List.mem_append.mp mem with old | new
        · exact ficam_law.deGrupo l old
        · obtain ⟨link, link_mem, rfl⟩ := List.mem_map.mp new
          exact prontos.deGrupo link (List.mem_filter.mp link_mem).1
      · exact unicos
      · intro other
        by_cases here : other = newsId
        · subst here
          -- the links of the news are different ones of the list
          have nodup : (((s.sincronizaLinks other (some links)).links.filter fun l =>
              l.newsId = other).map NewsGroupLink.link).Nodup := by
            apply List.Nodup.map_on
            · intro a a_mem b b_mem same
              have of_a := of_decide_eq_true (List.mem_filter.mp a_mem).2
              have of_b := of_decide_eq_true (List.mem_filter.mp b_mem).2
              exact List.inj_on_of_nodup_map unicos (List.mem_filter.mp a_mem).1
                (List.mem_filter.mp b_mem).1 (Prod.ext (of_a.trans of_b.symm) same)
            · exact unicos.of_map.filter _
          have sub : (((s.sincronizaLinks other (some links)).links.filter fun l =>
              l.newsId = other).map NewsGroupLink.link) ⊆ links := by
            intro link mem
            obtain ⟨l, l_mem, rfl⟩ := List.mem_map.mp mem
            obtain ⟨there, of_other⟩ := List.mem_filter.mp l_mem
            have of_other := of_decide_eq_true of_other
            rcases List.mem_append.mp there with old | new
            · simpa [of_other] using (List.mem_filter.mp old).2
            · obtain ⟨link, link_mem, rfl⟩ := List.mem_map.mp new
              exact (List.mem_filter.mp link_mem).1
          have le := (List.subperm_of_subset nodup sub).length_le
          rw [List.length_map] at le
          exact le.trans prontos.poucos
        · have nothing : (novos.map novo).filter (fun l => l.newsId = other) = [] := by
            rw [List.filter_eq_nil_iff]
            intro l mem
            obtain ⟨link, _, rfl⟩ := List.mem_map.mp mem
            simpa [novo] using Ne.symm here
          change ((ficam ++ novos.map novo).filter fun l => l.newsId = other).length ≤ maximoDeLinks
          rw [List.filter_append, nothing, List.append_nil]
          exact ficam_law.poucos other

/-! ### The church of a news -/

/-- The church of the news. -/
def igrejaDaNoticia? (s : Redacao) (newsId : Id) : Option Id :=
  (lookup News.id newsId s.noticias).bind News.churchId

/-- The event a news is for is of its church. -/
def PublicoNaIgreja (s : Redacao) (n : News) : Prop :=
  ∀ e, n.eventId = some e → ∃ c, n.churchId = some c ∧ s.igrejaDoEvento? e = some c

/-- The group is of an event of the church of the news. -/
def DestinoNaIgreja (s : Redacao) (newsId groupRoleId : Id) : Prop :=
  ∃ c, s.igrejaDaNoticia? newsId = some c ∧ s.igrejaDoGrupo? groupRoleId = some c

/-- Every news is for an event of its church, and goes to groups of its church. -/
structure NaIgreja (s : Redacao) : Prop where
  publico : ∀ n ∈ s.noticias, s.PublicoNaIgreja n
  destinos : ∀ d ∈ s.destinos, s.DestinoNaIgreja d.newsId d.groupRoleId

/-- The keys of the rows that others point at. -/
structure Chaves (s : Redacao) : Prop where
  noticias : Keyed News.id s.nextId s.noticias
  grupos : Keyed GroupRoles.id s.nextId s.grupos

section Lookups

variable {depois : Redacao} {newsId groupRoleId eventId c : Id}

theorem igrejaDaNoticia?_of_mem (chaves : s.Chaves) {n : News} (mem : n ∈ s.noticias) :
    s.igrejaDaNoticia? n.id = n.churchId := by
  have found := (lookup_eq_some_iff chaves.noticias.nodup).mpr ⟨mem, rfl⟩
  rw [igrejaDaNoticia?, found, Option.bind_some]

theorem igrejaDoGrupo?_of_mem (chaves : s.Chaves) {g : GroupRoles} (mem : g ∈ s.grupos) :
    s.igrejaDoGrupo? g.id = s.igrejaDoEvento? g.eventId := by
  have found := (lookup_eq_some_iff chaves.grupos.nodup).mpr ⟨mem, rfl⟩
  rw [igrejaDoGrupo?, found, Option.bind_some]

theorem exists_of_igrejaDaNoticia? (known : s.igrejaDaNoticia? newsId = some c) :
    ∃ n ∈ s.noticias, n.id = newsId ∧ n.churchId = some c := by
  obtain ⟨n, found, same⟩ := Option.bind_eq_some_iff.mp known
  exact ⟨n, lookup_mem found, lookup_key found, same⟩

theorem exists_of_igrejaDoGrupo? (known : s.igrejaDoGrupo? groupRoleId = some c) :
    ∃ g ∈ s.grupos, g.id = groupRoleId ∧ s.igrejaDoEvento? g.eventId = some c := by
  obtain ⟨g, found, same⟩ := Option.bind_eq_some_iff.mp known
  exact ⟨g, lookup_mem found, lookup_key found, same⟩

/-- A step that leaves the churches of what it keeps. -/
theorem NaIgreja.mono (law : s.NaIgreja)
    (publico : ∀ n ∈ depois.noticias, ∃ old ∈ s.noticias,
      old.eventId = n.eventId ∧ old.churchId = n.churchId ∧
        ∀ e c, n.eventId = some e → s.igrejaDoEvento? e = some c →
          depois.igrejaDoEvento? e = some c)
    (destinos : ∀ d ∈ depois.destinos, ∃ old ∈ s.destinos,
      old.newsId = d.newsId ∧ old.groupRoleId = d.groupRoleId ∧
        (∀ c, s.igrejaDaNoticia? d.newsId = some c → depois.igrejaDaNoticia? d.newsId = some c) ∧
          ∀ c, s.igrejaDoGrupo? d.groupRoleId = some c →
            depois.igrejaDoGrupo? d.groupRoleId = some c) : depois.NaIgreja where
  publico := by
    intro n mem e of_e
    obtain ⟨old, old_mem, event, church, kept⟩ := publico n mem
    obtain ⟨c, of_c, known⟩ := law.publico old old_mem e (event.trans of_e)
    exact ⟨c, church ▸ of_c, kept e c of_e known⟩
  destinos := by
    intro d mem
    obtain ⟨old, old_mem, news, group, news_kept, group_kept⟩ := destinos d mem
    obtain ⟨c, of_news, of_group⟩ := law.destinos old old_mem
    exact ⟨c, news_kept c (news ▸ of_news), group_kept c (group ▸ of_group)⟩

/-- Columns of a news change, but for its key, church and event. -/
theorem NaIgreja.comEdicao (law : s.NaIgreja) (id : Id) {f : News → News}
    (id_f : ∀ n, (f n).id = n.id) (churchId_f : ∀ n, (f n).churchId = n.churchId)
    (eventId_f : ∀ n, (f n).eventId = n.eventId) :
    (s.comEdicao id f).NaIgreja := by
  apply law.mono
  · intro n mem
    rcases mem_updateKey.mp mem with ⟨old, old_mem, _, rfl⟩ | ⟨old_mem, _⟩
    · exact ⟨old, old_mem, (eventId_f old).symm, (churchId_f old).symm, fun _ _ _ known => known⟩
    · exact ⟨n, old_mem, rfl, rfl, fun _ _ _ known => known⟩
  · intro d mem
    refine ⟨d, mem, rfl, rfl, ?_, fun _ known => known⟩
    intro c known
    obtain ⟨n, found, same⟩ := Option.bind_eq_some_iff.mp known
    rw [igrejaDaNoticia?, Redacao.comEdicao, lookup_updateKey id_f]
    split
    · next here =>
        rw [← here, found]
        exact (churchId_f n).trans same
    · rw [found]
      exact same

/-- News are deleted. -/
theorem NaIgreja.apagarNoticias (law : s.NaIgreja) (chaves : s.Chaves) (p : News → Bool) :
    (s.apagarNoticias p).NaIgreja := by
  apply law.mono
  · intro n mem
    exact ⟨n, (List.mem_filter.mp mem).1, rfl, rfl, fun _ _ _ known => known⟩
  · intro d mem
    obtain ⟨old_mem, kept⟩ := List.mem_filter.mp mem
    refine ⟨d, old_mem, rfl, rfl, ?_, fun _ known => known⟩
    intro c known
    obtain ⟨n, n_mem, same, church⟩ := exists_of_igrejaDaNoticia? known
    simp only [Bool.not_eq_true', List.any_eq_false, Bool.and_eq_true, decide_eq_true_eq,
      not_and, Bool.not_eq_true] at kept
    have stays : n ∈ s.noticias.filter fun n => !p n :=
      List.mem_filter.mpr ⟨n_mem, by simp [kept n n_mem same]⟩
    have found := (lookup_eq_some_iff (chaves.noticias.filter _).nodup).mpr ⟨stays, same⟩
    rw [igrejaDaNoticia?, Redacao.apagarNoticias]
    simp only [found]
    exact church

/-- Groups are deleted. -/
theorem NaIgreja.apagarGrupos (law : s.NaIgreja) (chaves : s.Chaves) (p : GroupRoles → Bool) :
    (s.apagarGrupos p).NaIgreja := by
  apply law.mono
  · intro n mem
    exact ⟨n, mem, rfl, rfl, fun _ _ _ known => known⟩
  · intro d mem
    obtain ⟨old_mem, kept⟩ := List.mem_filter.mp mem
    refine ⟨d, old_mem, rfl, rfl, fun _ known => known, ?_⟩
    intro c known
    obtain ⟨g, g_mem, same, church⟩ := exists_of_igrejaDoGrupo? known
    simp only [Bool.not_eq_true', List.any_eq_false, Bool.and_eq_true, decide_eq_true_eq,
      not_and, Bool.not_eq_true] at kept
    have stays : g ∈ s.grupos.filter fun g => !p g :=
      List.mem_filter.mpr ⟨g_mem, by simp [kept g g_mem same]⟩
    have found := (lookup_eq_some_iff (chaves.grupos.filter _).nodup).mpr ⟨stays, same⟩
    rw [igrejaDoGrupo?, Redacao.apagarGrupos]
    simp only [found]
    exact church

/-- An event is deleted, with all that points at it. -/
theorem NaIgreja.apagarEvento (law : s.NaIgreja) (chaves : s.Chaves) (eventId : Id) :
    (s.apagarEvento eventId).NaIgreja := by
  let noEvento := fun grupo : GroupRoles => decide (grupo.eventId = eventId)
  let doEvento := fun n : News => decide (n.eventId = some eventId)
  have semGrupos : Chaves (s.apagarGrupos noEvento) :=
    { noticias := chaves.noticias, grupos := chaves.grupos.filter _ }
  have meio : ((s.apagarGrupos noEvento).apagarNoticias doEvento).NaIgreja :=
    (law.apagarGrupos chaves noEvento).apagarNoticias semGrupos doEvento
  have outro : ∀ e c, e ≠ eventId → s.igrejaDoEvento? e = some c →
      (s.apagarEvento eventId).igrejaDoEvento? e = some c := by
    intro e c other known
    change (lookup EventoDaIgreja.id e (deleteKey EventoDaIgreja.id eventId s.painel.eventos)).map
      EventoDaIgreja.churchId = some c
    rw [lookup_deleteKey, if_neg other]
    exact known
  apply meio.mono
  · intro n mem
    refine ⟨n, mem, rfl, rfl, ?_⟩
    intro e c of_e known
    apply outro e c _ known
    rintro rfl
    simpa [doEvento, of_e] using (List.mem_filter.mp mem).2
  · intro d mem
    refine ⟨d, mem, rfl, rfl, fun _ known => known, ?_⟩
    intro c known
    obtain ⟨g, g_mem, same, church⟩ := exists_of_igrejaDoGrupo? known
    have other : g.eventId ≠ eventId := by simpa [noEvento] using (List.mem_filter.mp g_mem).2
    have found := (lookup_eq_some_iff semGrupos.grupos.nodup).mpr ⟨g_mem, same⟩
    change (lookup GroupRoles.id d.groupRoleId (s.apagarGrupos noEvento).grupos).bind _ = some c
    rw [found]
    exact outro g.eventId c other church

/-- The church of an event changes. -/
theorem igrejaDoEvento?_mover (s : Redacao) (eventId churchId e : Id) :
    igrejaDoEvento? { s with
      painel :=
        { s.painel with
          eventos := updateKey EventoDaIgreja.id eventId (fun e => { e with churchId })
            s.painel.eventos } } e =
      if e = eventId then (s.igrejaDoEvento? e).map fun _ => churchId else s.igrejaDoEvento? e := by
  change (lookup EventoDaIgreja.id e (updateKey EventoDaIgreja.id eventId
    (fun e => { e with churchId }) s.painel.eventos)).map _ = _
  rw [lookup_updateKey (f := fun e : EventoDaIgreja => { e with churchId }) fun _ => rfl]
  split
  · next here =>
      subst here
      rw [igrejaDoEvento?, Option.map_map, Option.map_map]
      rfl
  · rfl

end Lookups

/-! ### What the checks find out -/

section Conferencias

variable {u : Unit} {igreja : Option Id}

theorem assertEventoDaIgreja_ok {eventId : Option Id}
    (ok : s.assertEventoDaIgreja eventId igreja = .ok u) {e : Id} (of_e : eventId = some e) :
    ∃ c, igreja = some c ∧ s.igrejaDoEvento? e = some c := by
  subst of_e
  simp only [assertEventoDaIgreja, failIf_eq_ok_iff, not_not] at ok
  obtain ⟨evento, found, same⟩ := Option.map_eq_some_iff.mp ok
  refine ⟨evento.churchId, same.symm, ?_⟩
  rw [igrejaDoEvento?, found]
  rfl

theorem assertDestinosDaIgreja_ok (chaves : s.Chaves) {groupRoleIds : Option (List Id)}
    {links : Option (List (List Char))}
    (ok : s.assertDestinosDaIgreja igreja groupRoleIds links = .ok u) {g : Id}
    (mem : g ∈ groupRoleIds.getD []) :
    ∃ c, igreja = some c ∧ s.igrejaDoGrupo? g = some c := by
  have some_group : groupRoleIds.getD [] ≠ [] := List.ne_nil_of_mem mem
  cases igreja with
  | none =>
      simp only [assertDestinosDaIgreja, some_group, false_and, if_false] at ok
      cases ok
  | some c =>
      simp only [assertDestinosDaIgreja, some_group, false_and, if_false, failIf_eq_ok_iff, ne_eq,
        not_false_eq_true, true_and, not_not] at ok
      -- as many groups of the church as different ones were asked for: each of them is one
      obtain ⟨row, row_mem, same⟩ :=
        exists_of_length_filter (chaves.grupos.filter _).nodup ok mem
      obtain ⟨there, church⟩ := List.mem_filter.mp row_mem
      refine ⟨c, rfl, ?_⟩
      rw [← same, igrejaDoGrupo?_of_mem chaves there]
      exact of_decide_eq_true church

/-- What a request to publish or to edit knows when it writes. -/
structure Conferida (s : Redacao) (data : NewsDto) (lida : Lida) : Prop where
  evento : ∀ e, lida.eventId = some e → ∃ c, lida.igreja = some c ∧ s.igrejaDoEvento? e = some c
  destinos : ∀ g ∈ data.groupRoleIds.getD [],
    ∃ c, lida.igreja = some c ∧ s.igrejaDoGrupo? g = some c
  links : ∀ links, lida.links = some links → Prontos links

theorem mapM_normalizaLinks_ok {links : Option (List (List Char))}
    {lidos : Option (List (List Char))} (ok : links.mapM normalizaLinks = .ok lidos)
    {prontos : List (List Char)} (of_lidos : lidos = some prontos) : Prontos prontos := by
  cases links with
  | none => cases ok; cases of_lidos
  | some links =>
      rw [Option.mapM_some, map_eq_pure_bind, bind_eq_ok_iff] at ok
      obtain ⟨lista, read, same⟩ := ok
      rw [pure_eq_ok_iff] at same
      rw [← same, Option.some.injEq] at of_lidos
      exact of_lidos ▸ normalizaLinks_ok read

theorem lerParaCriar_ok (chaves : s.Chaves) {data : NewsDto} {authorId : Option Id} {lida : Lida}
    (ok : s.lerParaCriar data authorId = .ok lida) : Conferida s data lida := by
  simp only [lerParaCriar, bind_eq_ok_iff, pure_eq_ok_iff] at ok
  obtain ⟨_, _, eventId, _, igreja, _, _, _, links, read, _, event, _, groups, _, _, rfl⟩ := ok
  exact
    { evento := fun _ of_e => assertEventoDaIgreja_ok event of_e
      destinos := fun _ mem => assertDestinosDaIgreja_ok chaves groups mem
      links := fun _ of_links => mapM_normalizaLinks_ok read of_links }

theorem lerParaAtualizar_ok (chaves : s.Chaves) {id : Id} {data : NewsDto}
    {requesterId : Option Id} {atual : News} {lida : Lida} {imageUrl : Option String}
    (ok : s.lerParaAtualizar id data requesterId = .ok (atual, lida, imageUrl)) :
    Conferida s data lida ∧ lookup News.id id s.noticias = some atual := by
  simp only [lerParaAtualizar, bind_eq_ok_iff, pure_eq_ok_iff, orFail_eq_ok_iff] at ok
  obtain ⟨old, found, _, _, eventId, _, links, read, igreja, _, _, _, _, event, _, groups, _, _,
    _, _, _, _, same⟩ := ok
  cases same
  constructor
  · exact
      { evento := fun _ of_e => assertEventoDaIgreja_ok event of_e
        destinos := fun _ mem => assertDestinosDaIgreja_ok chaves groups mem
        links := fun _ of_links => mapM_normalizaLinks_ok read of_links }
  · exact found

end Conferencias

/-! ### What the writes leave -/

section Escritas

variable {newsId : Id}

/-- The destinations that are created are of the list. -/
theorem criaDestinos_eq (newsId : Id) (jaEstao grupos : List Id) (s : Redacao) :
    ∃ novos, (criaDestinos newsId jaEstao grupos s).1 =
        { s with destinos := s.destinos ++ novos } ∧
      ∀ d ∈ novos, d.newsId = newsId ∧ d.groupRoleId ∈ grupos := by
  induction grupos generalizing s with
  | nil => exact ⟨[], by simp [criaDestinos], nofun⟩
  | cons grupo grupos ih =>
      unfold criaDestinos
      split
      · obtain ⟨novos, same, of_list⟩ := ih s
        exact ⟨novos, same, fun d mem => ⟨(of_list d mem).1, .tail _ (of_list d mem).2⟩⟩
      · split
        · exact ⟨[], by simp, nofun⟩
        · obtain ⟨novos, same, of_list⟩ := ih
            { s with destinos := s.destinos ++ [⟨newsId, grupo, ⟨none, none⟩⟩] }
          refine ⟨⟨newsId, grupo, ⟨none, none⟩⟩ :: novos, by simp [same], ?_⟩
          intro d mem
          rcases List.mem_cons.mp mem with rfl | later
          · exact ⟨rfl, List.mem_cons_self⟩
          · exact ⟨(of_list d later).1, .tail _ (of_list d later).2⟩

/-- After the synchronisation the destinations of the news are of the list; without a list nothing
changes. -/
theorem sincronizaDestinos_eq (newsId : Id) (groupRoleIds : Option (List Id)) (s : Redacao) :
    ∃ destinos, (s.sincronizaDestinos newsId groupRoleIds).1 = { s with destinos } ∧
      ∀ d ∈ destinos, (d ∈ s.destinos ∧ (d.newsId = newsId → groupRoleIds = none)) ∨
        (d.newsId = newsId ∧ d.groupRoleId ∈ groupRoleIds.getD []) := by
  cases groupRoleIds with
  | none => exact ⟨s.destinos, rfl, fun d mem => .inl ⟨mem, fun _ => rfl⟩⟩
  | some groupRoleIds =>
      let ficam := s.destinos.filter fun d => d.newsId ≠ newsId || d.groupRoleId ∈ groupRoleIds
      let atuais := (s.destinos.filter fun d => d.newsId = newsId).map
        NewsOnGroupRoles.groupRoleId
      obtain ⟨novos, same, of_list⟩ :=
        criaDestinos_eq newsId atuais groupRoleIds { s with destinos := ficam }
      refine ⟨ficam ++ novos, same, ?_⟩
      intro d mem
      rcases List.mem_append.mp mem with old | new
      · obtain ⟨there, kept⟩ := List.mem_filter.mp old
        by_cases mine : d.newsId = newsId
        · exact .inr ⟨mine, by simpa [mine] using kept⟩
        · exact .inl ⟨there, fun absent => absurd absent mine⟩
      · exact .inr (of_list d new)

/-- The destinations of a news are written: those of the list are of its church, and so are all that
stay. -/
theorem naIgreja_sincronizaDestinos {groupRoleIds : Option (List Id)}
    (publico : ∀ n ∈ s.noticias, s.PublicoNaIgreja n)
    (outros : ∀ d ∈ s.destinos, (d.newsId = newsId → groupRoleIds = none) →
      s.DestinoNaIgreja d.newsId d.groupRoleId)
    (novos : ∀ g ∈ groupRoleIds.getD [], s.DestinoNaIgreja newsId g) :
    (s.sincronizaDestinos newsId groupRoleIds).1.NaIgreja := by
  obtain ⟨destinos, same, of_list⟩ := sincronizaDestinos_eq newsId groupRoleIds s
  rw [same]
  constructor
  · exact publico
  · intro d mem
    rcases of_list d mem with ⟨there, stays⟩ | ⟨mine, listed⟩
    · exact outros d there stays
    · exact mine ▸ novos d.groupRoleId listed

theorem sincronizaLinks_eq (s : Redacao) (newsId : Id) (links : Option (List (List Char))) :
    ∃ depois, s.sincronizaLinks newsId links = { s with links := depois } := by
  cases links with
  | none => exact ⟨s.links, rfl⟩
  | some links => exact ⟨_, rfl⟩

/-- The links do not say where a news goes by its groups. -/
theorem NaIgreja.links (law : s.NaIgreja) (links : List NewsGroupLink) :
    NaIgreja { s with links } :=
  ⟨law.publico, law.destinos⟩

theorem Chaves.sincronizaDestinos (chaves : s.Chaves) (newsId : Id)
    (groupRoleIds : Option (List Id)) : (s.sincronizaDestinos newsId groupRoleIds).1.Chaves := by
  obtain ⟨destinos, same, _⟩ := sincronizaDestinos_eq newsId groupRoleIds s
  rw [same]
  exact ⟨chaves.noticias, chaves.grupos⟩

theorem Chaves.sincronizaLinks (chaves : s.Chaves) (newsId : Id)
    (links : Option (List (List Char))) : (s.sincronizaLinks newsId links).Chaves := by
  obtain ⟨depois, same⟩ := sincronizaLinks_eq s newsId links
  rw [same]
  exact ⟨chaves.noticias, chaves.grupos⟩

/-- Columns of a news change, but for its key. -/
theorem Chaves.comEdicao (chaves : s.Chaves) (id : Id) {f : News → News}
    (id_f : ∀ n, (f n).id = n.id) :
    (s.comEdicao id f).Chaves where
  noticias := chaves.noticias.map fun n => by split <;> simp [id_f]
  grupos := chaves.grupos

theorem LinksDeGrupo.sincronizaDestinos (law : s.LinksDeGrupo) (newsId : Id)
    (groupRoleIds : Option (List Id)) :
    (s.sincronizaDestinos newsId groupRoleIds).1.LinksDeGrupo := by
  obtain ⟨destinos, same, _⟩ := sincronizaDestinos_eq newsId groupRoleIds s
  rw [same]
  exact law.of_eq rfl

end Escritas

/-! ### Publishing and editing -/

/-- What holds without a condition. -/
structure Regular (s : Redacao) : Prop where
  chaves : s.Chaves
  links : s.LinksDeGrupo

section Pedidos

variable {data : NewsDto} {requesterId : Option Id} {agora : Instant}

theorem Regular.sincronizaDestinos (regular : s.Regular) (newsId : Id)
    (groupRoleIds : Option (List Id)) : (s.sincronizaDestinos newsId groupRoleIds).1.Regular :=
  ⟨regular.chaves.sincronizaDestinos newsId groupRoleIds,
    regular.links.sincronizaDestinos newsId groupRoleIds⟩

theorem Regular.sincronizaLinks (regular : s.Regular) (newsId : Id)
    {links : Option (List (List Char))} (prontos : ∀ l, links = some l → Prontos l) :
    (s.sincronizaLinks newsId links).Regular :=
  ⟨regular.chaves.sincronizaLinks newsId links, regular.links.sincronizaLinks newsId prontos⟩

theorem Regular.comEdicao (regular : s.Regular) (id : Id) {f : News → News}
    (id_f : ∀ n, (f n).id = n.id) :
    (s.comEdicao id f).Regular :=
  ⟨regular.chaves.comEdicao id id_f, regular.links.of_eq rfl⟩

theorem Regular.ilustra (regular : s.Regular) (newsId : Id) (data : NewsDto) :
    (s.ilustra newsId data).Regular := by
  unfold Redacao.ilustra
  split
  · exact regular.comEdicao newsId fun _ => rfl
  · exact regular

theorem NaIgreja.ilustra (law : s.NaIgreja) (newsId : Id) (data : NewsDto) :
    (s.ilustra newsId data).NaIgreja := by
  unfold Redacao.ilustra
  split
  · exact law.comEdicao newsId (fun _ => rfl) (fun _ => rfl) fun _ => rfl
  · exact law

theorem Regular.comNoticia (regular : s.Regular) {n : News} (fresh : n.id = s.nextId) :
    (s.comNoticia n).Regular where
  chaves :=
    { noticias := regular.chaves.noticias.append_fresh fresh
      grupos := regular.chaves.grupos.mono (Nat.le_succ _) }
  links := regular.links.of_eq rfl

theorem igrejaDaNoticia?_comNoticia {n : News} {newsId c : Id}
    (known : s.igrejaDaNoticia? newsId = some c) :
    (s.comNoticia n).igrejaDaNoticia? newsId = some c := by
  obtain ⟨old, found, church⟩ := Option.bind_eq_some_iff.mp known
  have still : lookup News.id newsId (s.noticias ++ [n]) = some old := by
    rw [lookup] at found ⊢
    rw [List.find?_append, found, Option.some_or]
  change (lookup News.id newsId (s.noticias ++ [n])).bind News.churchId = some c
  rw [still]
  exact church

theorem Regular.create (regular : s.Regular) (data : NewsDto) (authorId : Option Id)
    (agora : Instant) : (s.create data authorId agora).Regular := by
  unfold Redacao.create
  split
  · exact regular
  · next lida read =>
      have conferida := lerParaCriar_ok regular.chaves read
      have criada := regular.comNoticia (n := s.novaNoticia data authorId lida agora) rfl
      have depois := criada.sincronizaDestinos s.nextId data.groupRoleIds
      simp only
      split
      · next fim synced =>
          rw [synced] at depois
          exact (depois.sincronizaLinks s.nextId conferida.links).ilustra s.nextId data
      · next fim synced =>
          rw [synced] at depois
          exact depois

theorem NaIgreja.create (law : s.NaIgreja) (chaves : s.Chaves) (data : NewsDto)
    (authorId : Option Id) (agora : Instant) : (s.create data authorId agora).NaIgreja := by
  unfold Redacao.create
  split
  · exact law
  · next lida read =>
      have conferida := lerParaCriar_ok chaves read
      let nova := s.novaNoticia data authorId lida agora
      have criada : ∀ c, lida.igreja = some c →
          (s.comNoticia nova).igrejaDaNoticia? s.nextId = some c := by
        intro c church
        have fresh : ∀ n ∈ s.noticias, n.id ≠ s.nextId :=
          fun n mem => (chaves.noticias.lt_next n mem).ne
        change (lookup News.id s.nextId (s.noticias ++ [nova])).bind News.churchId = some c
        rw [lookup, List.find?_append, ← lookup, lookup_eq_none_iff.mpr fresh, Option.none_or]
        simpa [nova, novaNoticia] using church
      have depois : ((s.comNoticia nova).sincronizaDestinos s.nextId
          data.groupRoleIds).1.NaIgreja := by
        apply naIgreja_sincronizaDestinos
        · intro n mem
          rcases List.mem_append.mp mem with old | new
          · exact law.publico n old
          · obtain rfl := List.mem_singleton.mp new
            exact conferida.evento
        · intro d mem _
          obtain ⟨c, news, group⟩ := law.destinos d mem
          exact ⟨c, igrejaDaNoticia?_comNoticia news, group⟩
        · intro g mem
          obtain ⟨c, church, group⟩ := conferida.destinos g mem
          exact ⟨c, criada c church, group⟩
      simp only
      split
      · next fim synced =>
          rw [synced] at depois
          obtain ⟨links, same⟩ := sincronizaLinks_eq fim s.nextId lida.links
          rw [same]
          exact (depois.links links).ilustra s.nextId data
      · next fim synced =>
          rw [synced] at depois
          exact depois

theorem Regular.sincroniza (regular : s.Regular) (newsId : Id) (groupRoleIds : Option (List Id))
    {links : Option (List (List Char))} (prontos : ∀ l, links = some l → Prontos l) :
    (s.sincroniza newsId groupRoleIds links).Regular := by
  have depois := regular.sincronizaDestinos newsId groupRoleIds
  unfold Redacao.sincroniza
  split
  · next fim synced =>
      rw [synced] at depois
      exact depois.sincronizaLinks newsId prontos
  · next fim synced =>
      rw [synced] at depois
      exact depois

theorem naIgreja_sincroniza {newsId : Id} {groupRoleIds : Option (List Id)}
    (depois : (s.sincronizaDestinos newsId groupRoleIds).1.NaIgreja)
    (links : Option (List (List Char))) : (s.sincroniza newsId groupRoleIds links).NaIgreja := by
  unfold Redacao.sincroniza
  split
  · next fim synced =>
      rw [synced] at depois
      obtain ⟨outros, same⟩ := sincronizaLinks_eq fim newsId links
      rw [same]
      exact depois.links outros
  · next fim synced =>
      rw [synced] at depois
      exact depois

theorem Regular.update (regular : s.Regular) (id : Id) (data : NewsDto) (requesterId : Option Id)
    (agora : Instant) : (s.update id data requesterId agora).Regular := by
  unfold Redacao.update
  split
  · exact regular
  · next atual lida imageUrl read =>
      have conferida := (lerParaAtualizar_ok regular.chaves read).1
      have editada := regular.comEdicao id (f := editada data lida imageUrl agora) fun _ => rfl
      exact editada.sincroniza id data.groupRoleIds conferida.links

/-- The church of each news after one of them is edited. -/
theorem igrejaDaNoticia?_editada (s : Redacao) (id newsId : Id) (data : NewsDto) (lida : Lida)
    (imageUrl : Option String) (agora : Instant) :
    (s.comEdicao id (editada data lida imageUrl agora)).igrejaDaNoticia? newsId =
      if newsId = id then (lookup News.id id s.noticias).bind fun _ => lida.igreja
      else s.igrejaDaNoticia? newsId := by
  rw [igrejaDaNoticia?, Redacao.comEdicao,
    lookup_updateKey (f := editada data lida imageUrl agora) fun _ => rfl]
  split
  · rw [Option.bind_map]
    rfl
  · rfl

/-- A request to edit keeps the groups of the church when it does not take the news to another
church without its list of groups. -/
theorem NaIgreja.update (law : s.NaIgreja) (chaves : s.Chaves) {id : Id}
    (mantem : ∀ atual lida imageUrl,
      s.lerParaAtualizar id data requesterId = .ok (atual, lida, imageUrl) →
        data.groupRoleIds = none → lida.igreja ≠ atual.churchId → ∀ d ∈ s.destinos, d.newsId ≠ id) :
    (s.update id data requesterId agora).NaIgreja := by
  unfold Redacao.update
  split
  · exact law
  · next atual lida imageUrl read =>
      obtain ⟨conferida, found⟩ := lerParaAtualizar_ok chaves read
      have church : (s.comEdicao id (editada data lida imageUrl agora)).igrejaDaNoticia? id =
          lida.igreja := by
        rw [igrejaDaNoticia?_editada, if_pos rfl, found, Option.bind_some]
      apply naIgreja_sincroniza
      apply naIgreja_sincronizaDestinos
      · intro n mem
        rcases mem_updateKey.mp mem with ⟨old, _, _, rfl⟩ | ⟨other, _⟩
        · exact conferida.evento
        · exact law.publico n other
      · intro d mem stays
        obtain ⟨c, news, group⟩ := law.destinos d mem
        by_cases mine : d.newsId = id
        · rw [mine, igrejaDaNoticia?, found, Option.bind_some] at news
          have kept : lida.igreja = atual.churchId := by
            by_contra moved
            exact mantem atual lida imageUrl read (stays mine) moved d mem mine
          refine ⟨c, ?_, group⟩
          rw [mine, church, kept, news]
        · refine ⟨c, ?_, group⟩
          rw [igrejaDaNoticia?_editada, if_neg mine, news]
      · intro g mem
        obtain ⟨c, of_c, group⟩ := conferida.destinos g mem
        exact ⟨c, church.trans of_c, group⟩

/-- Where an edit without a list of groups ends with every destination in its church, the news did
not change church or had no destination. -/
theorem mantem_of_update (law : s.NaIgreja) (chaves : s.Chaves) {id : Id}
    (depois : (s.update id data requesterId agora).NaIgreja) {atual : News} {lida : Lida}
    {imageUrl : Option String}
    (read : s.lerParaAtualizar id data requesterId = .ok (atual, lida, imageUrl))
    (no_list : data.groupRoleIds = none) (moved : lida.igreja ≠ atual.churchId) :
    ∀ d ∈ s.destinos, d.newsId ≠ id := by
  rintro d mem mine
  have found := (lerParaAtualizar_ok chaves read).2
  obtain ⟨c, news, group⟩ := law.destinos d mem
  rw [mine, igrejaDaNoticia?, found, Option.bind_some] at news
  obtain ⟨links, same⟩ := sincronizaLinks_eq (s.comEdicao id (editada data lida imageUrl agora)) id
    lida.links
  rw [Redacao.update, read, no_list] at depois
  simp only [Redacao.sincroniza, Redacao.sincronizaDestinos, same] at depois
  obtain ⟨c', news', group'⟩ := depois.destinos d mem
  change (s.comEdicao id (editada data lida imageUrl agora)).igrejaDaNoticia? d.newsId = _ at news'
  rw [mine, igrejaDaNoticia?_editada, if_pos rfl, found, Option.bind_some] at news'
  have one_church : some c = some c' := group.symm.trans group'
  exact moved (news'.trans (one_church.symm.trans news.symm))

end Pedidos

/-! ### Events that move -/

/-- The news is for the event, or goes to a group of it. -/
def DependeDo (s : Redacao) (n : News) (eventId : Id) : Prop :=
  n.eventId = some eventId ∨
    ∃ d ∈ s.destinos, ∃ g ∈ s.grupos, d.newsId = n.id ∧ d.groupRoleId = g.id ∧ g.eventId = eventId

section Mover

variable {eventId churchId : Id}

theorem NaIgreja.mover (law : s.NaIgreja)
    (mantem : ∀ n ∈ s.noticias, s.DependeDo n eventId → n.churchId = some churchId) :
    (s.agir (.moverEvento eventId churchId)).NaIgreja := by
  have igreja := igrejaDoEvento?_mover s eventId churchId
  constructor
  · intro n mem e of_e
    obtain ⟨c, of_c, known⟩ := law.publico n mem e of_e
    by_cases here : e = eventId
    · refine ⟨churchId, mantem n mem (.inl (here ▸ of_e)), ?_⟩
      exact (igreja e).trans (by rw [if_pos here, known, Option.map_some])
    · exact ⟨c, of_c, (igreja e).trans (by rw [if_neg here, known])⟩
  · intro d mem
    obtain ⟨c, news, group⟩ := law.destinos d mem
    obtain ⟨n, n_mem, n_id, n_church⟩ := exists_of_igrejaDaNoticia? news
    obtain ⟨g, found, known⟩ := Option.bind_eq_some_iff.mp group
    have after : (s.agir (.moverEvento eventId churchId)).igrejaDoGrupo? d.groupRoleId =
        (s.agir (.moverEvento eventId churchId)).igrejaDoEvento? g.eventId := by
      change (lookup GroupRoles.id d.groupRoleId s.grupos).bind _ = _
      rw [found, Option.bind_some]
    refine ⟨c, news, after.trans ((igreja g.eventId).trans ?_)⟩
    by_cases here : g.eventId = eventId
    · have there := mantem n n_mem
        (.inr ⟨d, mem, g, lookup_mem found, n_id.symm, (lookup_key found).symm, here⟩)
      rw [if_pos here, known, Option.map_some, ← there, n_church]
    · rw [if_neg here, known]

theorem mantem_of_mover (chaves : s.Chaves)
    (depois : (s.agir (.moverEvento eventId churchId)).NaIgreja) :
    ∀ n ∈ s.noticias, s.DependeDo n eventId → n.churchId = some churchId := by
  have igreja : ∀ c, (s.agir (.moverEvento eventId churchId)).igrejaDoEvento? eventId = some c →
      c = churchId := by
    intro c known
    have known := (igrejaDoEvento?_mover s eventId churchId eventId).symm.trans known
    rw [if_pos rfl, Option.map_eq_some_iff] at known
    obtain ⟨_, _, same⟩ := known
    exact same.symm
  rintro n mem (of_e | ⟨d, d_mem, g, g_mem, d_news, d_group, g_event⟩)
  · obtain ⟨c, church, known⟩ := depois.publico n mem eventId of_e
    exact igreja c known ▸ church
  · obtain ⟨c, news, group⟩ := depois.destinos d d_mem
    have of_news : s.igrejaDaNoticia? d.newsId = some c := news
    rw [d_news, igrejaDaNoticia?_of_mem chaves mem] at of_news
    have chaves' : (s.agir (.moverEvento eventId churchId)).Chaves :=
      ⟨chaves.noticias, chaves.grupos⟩
    rw [d_group, igrejaDoGrupo?_of_mem chaves' g_mem, g_event] at group
    exact igreja c group ▸ of_news

end Mover

/-! ### Runs -/

/-- The steps that keep a news and its groups in one church: an edit that changes the church brings
the list of groups, or there are none; an event that moves is of no news of another church. -/
def MantemAIgreja (s : Redacao) : Acao → Prop
  | .update id data requesterId _ =>
      ∀ atual lida imageUrl,
        s.lerParaAtualizar id data requesterId = .ok (atual, lida, imageUrl) →
          data.groupRoleIds = none → lida.igreja ≠ atual.churchId →
            ∀ d ∈ s.destinos, d.newsId ≠ id
  | .moverEvento eventId churchId =>
      ∀ n ∈ s.noticias, s.DependeDo n eventId → n.churchId = some churchId
  | _ => True

theorem Regular.apagarNoticias (regular : s.Regular) (p : News → Bool) :
    (s.apagarNoticias p).Regular where
  chaves := ⟨regular.chaves.noticias.filter _, regular.chaves.grupos⟩
  links := regular.links.filter rfl

theorem Regular.apagarGrupos (regular : s.Regular) (p : GroupRoles → Bool) :
    (s.apagarGrupos p).Regular where
  chaves := ⟨regular.chaves.noticias, regular.chaves.grupos.filter _⟩
  links := regular.links.of_eq rfl

theorem Regular.remove (regular : s.Regular) (id : Id) (requesterId : Option Id) :
    (s.remove id requesterId).Regular := by
  unfold Redacao.remove
  split
  · exact regular
  · exact regular.apagarNoticias _

theorem NaIgreja.remove (law : s.NaIgreja) (chaves : s.Chaves) (id : Id)
    (requesterId : Option Id) : (s.remove id requesterId).NaIgreja := by
  unfold Redacao.remove
  split
  · exact law
  · exact law.apagarNoticias chaves _

theorem Regular.agir (regular : s.Regular) (acao : Acao) : (s.agir acao).Regular := by
  have chaves := regular.chaves
  cases acao with
  | create data authorId agora => exact regular.create data authorId agora
  | update id data requesterId agora => exact regular.update id data requesterId agora
  | remove id requesterId => exact regular.remove id requesterId
  | publicar id agora => exact regular.comEdicao id fun _ => rfl
  | marcarDestino newsId groupRoleId agora motivo =>
      exact ⟨⟨chaves.1, chaves.2⟩, regular.links.of_eq rfl⟩
  | marcarLink newsId link agora motivo =>
      refine ⟨⟨chaves.1, chaves.2⟩, regular.links.map rfl ?_ ?_⟩
      · intro l
        split <;> rfl
      · intro l
        split <;> rfl
  | moverEvento eventId churchId => exact ⟨⟨chaves.1, chaves.2⟩, regular.links.of_eq rfl⟩
  | criarEvento churchId =>
      have later := Nat.le_succ s.nextId
      exact ⟨⟨chaves.1.mono later, chaves.2.mono later⟩, regular.links.of_eq rfl⟩
  | apagarEvento eventId =>
      have semLinhas := (regular.apagarGrupos fun g => g.eventId = eventId).apagarNoticias
        fun n => n.eventId = some eventId
      exact ⟨⟨semLinhas.chaves.1, semLinhas.chaves.2⟩, semLinhas.links.of_eq rfl⟩
  | criarGrupo eventId =>
      exact ⟨⟨chaves.1.mono (Nat.le_succ _), chaves.2.append_fresh rfl⟩, regular.links.of_eq rfl⟩
  | apagarGrupo id => exact regular.apagarGrupos _
  | apagarIgreja id =>
      simp only [Redacao.agir, Redacao.apagarIgreja]
      split
      · exact regular
      · have semNoticias := regular.apagarNoticias fun n => n.churchId = some id
        exact ⟨⟨semNoticias.chaves.1, semNoticias.chaves.2⟩, semNoticias.links.of_eq rfl⟩
  | mudarPainel painel modulos => exact ⟨⟨chaves.1, chaves.2⟩, regular.links.of_eq rfl⟩

theorem NaIgreja.agir (law : s.NaIgreja) (chaves : s.Chaves) {acao : Acao}
    (mantem : s.MantemAIgreja acao) : (s.agir acao).NaIgreja := by
  cases acao with
  | create data authorId agora => exact law.create chaves data authorId agora
  | update id data requesterId agora => exact law.update chaves mantem
  | remove id requesterId => exact law.remove chaves id requesterId
  | publicar id agora => exact law.comEdicao id (fun _ => rfl) (fun _ => rfl) fun _ => rfl
  | marcarDestino newsId groupRoleId agora motivo =>
      apply law.mono
      · exact fun n mem => ⟨n, mem, rfl, rfl, fun _ _ _ known => known⟩
      · intro d mem
        obtain ⟨old, old_mem, rfl⟩ := List.mem_map.mp mem
        refine ⟨old, old_mem, ?_, ?_, fun _ known => known, fun _ known => known⟩
        · split <;> rfl
        · split <;> rfl
  | marcarLink newsId link agora motivo => exact law.links _
  | moverEvento eventId churchId => exact law.mover mantem
  | criarEvento churchId =>
      have kept : ∀ e c, s.igrejaDoEvento? e = some c →
          (s.agir (.criarEvento churchId)).igrejaDoEvento? e = some c := by
        intro e c known
        obtain ⟨evento, found, same⟩ := Option.map_eq_some_iff.mp known
        have still : lookup EventoDaIgreja.id e (s.painel.eventos ++ [⟨s.nextId, churchId⟩]) =
            some evento := by
          change List.find? _ s.painel.eventos = some evento at found
          rw [lookup, List.find?_append, found, Option.some_or]
        change (lookup EventoDaIgreja.id e (s.painel.eventos ++ [⟨s.nextId, churchId⟩])).map _ =
          some c
        rw [still, Option.map_some, same]
      apply law.mono
      · exact fun n mem => ⟨n, mem, rfl, rfl, fun e c _ known => kept e c known⟩
      · intro d mem
        refine ⟨d, mem, rfl, rfl, fun _ known => known, ?_⟩
        intro c known
        obtain ⟨g, found, church⟩ := Option.bind_eq_some_iff.mp known
        change (lookup GroupRoles.id d.groupRoleId s.grupos).bind _ = some c
        rw [found]
        exact kept g.eventId c church
  | apagarEvento eventId => exact law.apagarEvento chaves eventId
  | criarGrupo eventId =>
      apply law.mono
      · exact fun n mem => ⟨n, mem, rfl, rfl, fun _ _ _ known => known⟩
      · intro d mem
        refine ⟨d, mem, rfl, rfl, fun _ known => known, ?_⟩
        intro c known
        obtain ⟨g, found, church⟩ := Option.bind_eq_some_iff.mp known
        have still : lookup GroupRoles.id d.groupRoleId (s.grupos ++ [⟨s.nextId, eventId⟩]) =
            some g := by
          rw [lookup] at found ⊢
          rw [List.find?_append, found, Option.some_or]
        change (lookup GroupRoles.id d.groupRoleId (s.grupos ++ [⟨s.nextId, eventId⟩])).bind _ =
          some c
        rw [still]
        exact church
  | apagarGrupo id => exact law.apagarGrupos chaves _
  | apagarIgreja id =>
      simp only [Redacao.agir, Redacao.apagarIgreja]
      split
      · exact law
      · have semNoticias := law.apagarNoticias chaves fun n => n.churchId = some id
        exact ⟨semNoticias.publico, semNoticias.destinos⟩
  | mudarPainel painel modulos => exact ⟨law.publico, law.destinos⟩

theorem mantem_of_agir (law : s.NaIgreja) (chaves : s.Chaves) {acao : Acao}
    (depois : (s.agir acao).NaIgreja) : s.MantemAIgreja acao := by
  cases acao with
  | update id data requesterId agora =>
      intro atual lida imageUrl read no_list moved
      exact mantem_of_update law chaves depois read no_list moved
  | moverEvento eventId churchId => exact mantem_of_mover chaves depois
  | create | remove | publicar | marcarDestino | marcarLink => trivial
  | criarEvento | apagarEvento | criarGrupo | apagarGrupo | apagarIgreja | mudarPainel => trivial

end Redacao

end Publicacao

open Publicacao

/-- The loose links of the news are of groups in every run; and every news is for an event of its
church and goes to groups of its church exactly in the runs whose edits that change the church bring
their groups and whose events that move take no news of another church along. -/
theorem noticias_na_igreja_run_iff (painel : Painel) (modulos : Id → List ChurchModule)
    (acoes : List Redacao.Acao) :
    Always Redacao.agir Redacao.LinksDeGrupo (.vazia painel modulos) acoes ∧
      (Always Redacao.agir Redacao.NaIgreja (.vazia painel modulos) acoes ↔
        EachStep Redacao.agir Redacao.MantemAIgreja (.vazia painel modulos) acoes) := by
  have regular : (Redacao.vazia painel modulos).Regular :=
    { chaves := ⟨.nil, .nil⟩
      links := ⟨nofun, List.nodup_nil, fun _ => Nat.zero_le _⟩ }
  have naIgreja : (Redacao.vazia painel modulos).NaIgreja := ⟨nofun, nofun⟩
  constructor
  · have run : Always Redacao.agir Redacao.Regular (.vazia painel modulos) acoes :=
      always_of_step (fun _ acao regular => regular.agir acao) regular acoes
    exact run.mono fun _ regular => regular.links
  · apply always_iff_eachStep_of_invariant (I := fun s => s.Regular ∧ s.NaIgreja)
    · exact fun _ inv => inv.2
    · exact fun _ acao inv mantem => ⟨inv.1.agir acao, inv.2.agir inv.1.chaves mantem⟩
    · exact fun _ _ inv depois => Redacao.mantem_of_agir inv.2 inv.1.chaves depois
    · exact ⟨regular, naIgreja⟩

end IccvBackend
