/-
Module: IccvBackend.News.Publicacao
Purpose: `create`, `update` and `remove` of `news.service.ts`: who publishes for which church, the
  event a news is for, and the WhatsApp groups it goes to, among events that move and are deleted.
Trusted boundary: human-reviewed spec; the upload of an image is a value of the request
Main exports: extraiCodigoDoConvite, normalizaLinks, Publicacao.Redacao, Publicacao.NewsDto,
  Redacao.lerParaCriar, Redacao.lerParaAtualizar, Redacao.sincronizaDestinos, Redacao.agir
-/
import IccvBackend.Auth.Tenant
import IccvBackend.Lib.Fallible
import IccvBackend.Lib.Transitions
import IccvBackend.News.Whatsapp
import IccvBackend.Treasury.Nomes

namespace IccvBackend

open Lib

/-! ### Links of WhatsApp groups -/

/-- `[A-Za-z0-9]`. -/
def doCodigo (c : Char) : Bool :=
  ('A' ≤ c && c ≤ 'Z') || ('a' ≤ c && c ≤ 'z') || ('0' ≤ c && c ≤ '9')

def esquema : List Char := ['h', 't', 't', 'p', 's', ':', '/', '/']

def hospedeiro : List Char :=
  ['c', 'h', 'a', 't', '.', 'w', 'h', 'a', 't', 's', 'a', 'p', 'p', '.', 'c', 'o', 'm', '/']

def convite : List Char := ['i', 'n', 'v', 'i', 't', 'e', '/']

/-- `([A-Za-z0-9]+)`. -/
def codigoNoInicio (texto : List Char) : Option (List Char) :=
  if texto.takeWhile doCodigo = [] then none else some (texto.takeWhile doCodigo)

/-- `(?:invite\/)?([A-Za-z0-9]+)`: without a code after `invite/`, the regex goes back. -/
def codigoDepoisDoHospedeiro (texto : List Char) : Option (List Char) :=
  if convite.isPrefixOf texto then
    (codigoNoInicio (texto.drop convite.length)).or (codigoNoInicio texto)
  else codigoNoInicio texto

/-- The leftmost match of `/chat\.whatsapp\.com\/(?:invite\/)?([A-Za-z0-9]+)/`. -/
def codigoDoLink : List Char → Option (List Char)
  | [] => none
  | c :: resto =>
      let aqui :=
        if hospedeiro.isPrefixOf (c :: resto) then
          codigoDepoisDoHospedeiro ((c :: resto).drop hospedeiro.length)
        else none
      aqui.or (codigoDoLink resto)

/-- `extraiCodigoDoConvite`. -/
def extraiCodigoDoConvite (link : List Char) : Option (List Char) :=
  let texto := trimChars link
  if texto = [] then none
  else
    match codigoDoLink texto with
    | some codigo => some codigo
    | none =>
        if texto.all doCodigo && 15 ≤ texto.length && texto.length ≤ 30 then some texto else none

/-- `https://chat.whatsapp.com/…`. -/
def linkDoCodigo (codigo : List Char) : List Char := esquema ++ hospedeiro ++ codigo

def maximoDeLinks : Nat := 20

def padronizaLink (link : List Char) : Except Failure (List Char) := do
  let codigo ← orFail (extraiCodigoDoConvite link)
    (badRequest ("\"" ++ String.ofList link ++
      "\" não é um link de grupo do WhatsApp (https://chat.whatsapp.com/...)."))
  pure (linkDoCodigo codigo)

/-- `normalizaLinks`, of a list that came. -/
def normalizaLinks (links : List (List Char)) : Except Failure (List (List Char)) := do
  let prontos ← links.mapM padronizaLink
  failIf (maximoDeLinks < prontos.eraseDups.length)
    (badRequest ("Uma notícia pode ter no máximo " ++ toString maximoDeLinks ++
      " links de grupo."))
  pure prontos.eraseDups

namespace Publicacao

/-! ### Rows -/

structure GroupRoles where
  id : Id
  eventId : Id
deriving Repr, DecidableEq

structure News where
  id : Id
  title : String
  summary : Option String
  content : String
  imageUrl : Option String
  isPublished : Bool
  publishedAt : Option Instant
  authorId : Option Id
  churchId : Option Id
  eventId : Option Id
deriving Repr, DecidableEq

structure NewsOnGroupRoles where
  newsId : Id
  groupRoleId : Id
  resultado : ResultadoGravado
deriving Repr, DecidableEq

structure NewsGroupLink where
  newsId : Id
  link : List Char
  resultado : ResultadoGravado
deriving Repr, DecidableEq

/-- A file of a request: its type is one of images, and where the upload put it. -/
structure ImageFile where
  imagem : Bool
  url : Option String
deriving Repr, DecidableEq

structure NewsDto where
  title : String
  summary : Option String
  content : String
  isPublished : Bool
  scheduled : Bool
  removeImage : Bool
  /-- absent, everybody, or an event -/
  eventId : Option (Option Id)
  groupRoleIds : Option (List Id)
  groupLinks : Option (List (List Char))
  churchId : Option Id
  imageFile : Option ImageFile
deriving Repr, DecidableEq

/-- The tables the writing of news reads and writes.  `modulos` is the modules of each plan. -/
structure Redacao where
  painel : Painel
  modulos : Id → List ChurchModule
  grupos : List GroupRoles
  noticias : List News
  destinos : List NewsOnGroupRoles
  links : List NewsGroupLink
  nextId : Id

/-- `summary?.trim() || null`. -/
def resumo (summary : Option String) : Option String :=
  (summary.map trim).filter fun texto =>
    texto ≠ ""

/-- `resolveImageExtension`. -/
def conferirImagem (data : NewsDto) : Except Failure Unit :=
  failIf (data.imageFile.any fun arquivo => !arquivo.imagem)
    (badRequest "Tipo de imagem não suportado")

/-- `uploadImageFirebase`. -/
def subir (arquivo : ImageFile) : Except Failure String :=
  orFail arquivo.url (internalServerError "upload")

/-- `assertChurchAccess`, of a resource that may have no church. -/
def assertChurchAccess (requester : Option TenantRequester) (churchId : Option Id)
    (message : String) : Except Failure Unit :=
  failIf (¬ isSuperAdmin requester ∧
      ¬ churchId.any fun id => id ∈ churchIdsComPerfil requester [Role.admin])
    (forbidden message)

namespace Redacao

/-- Churches and people, and no event or news yet. -/
def vazia (painel : Painel) (modulos : Id → List ChurchModule) : Redacao where
  painel := { painel with eventos := [] }
  modulos := modulos
  grupos := []
  noticias := []
  destinos := []
  links := []
  nextId := 0

variable (s : Redacao)

/-! ### Checks -/

/-- The church of the event. -/
def igrejaDoEvento? (eventId : Id) : Option Id :=
  (s.painel.evento? eventId).map EventoDaIgreja.churchId

/-- The church of the event of the group. -/
def igrejaDoGrupo? (groupRoleId : Id) : Option Id :=
  (lookup GroupRoles.id groupRoleId s.grupos).bind fun grupo => s.igrejaDoEvento? grupo.eventId

/-- `exigirModulo`, of news. -/
def exigirModulo (churchId : Id) : Except Failure Unit :=
  match s.painel.igreja? churchId with
  | none => pure ()
  | some igreja =>
      failIf (.news ∉ (igreja.planId.map s.modulos).getD [])
        (forbidden ("O plano de " ++ igreja.name ++ " não inclui o módulo Notícias"))

/-- `resolvePublico`. -/
def resolvePublico (requester : Option TenantRequester) (eventId : Option Id) :
    Except Failure (Option Id) :=
  match eventId with
  | none => pure none
  | some eventId => do
      let igreja ← orFail (s.igrejaDoEvento? eventId) (notFound "Evento não encontrado")
      assertChurchAccess requester (some igreja) "Você não administra a igreja deste evento"
      pure (some eventId)

/-- `igrejaDaPublicacao`. -/
def igrejaDaPublicacao (autor : Option TenantRequester) (eventId pedida : Option Id) :
    Except Failure (Option Id) :=
  match pedida with
  | some igreja => do
      assertChurchAccess autor (some igreja)
        "Você não administra a igreja escolhida para a notícia"
      pure (some igreja)
  | none =>
      let minhas := churchIdsComPerfil autor [Role.admin]
      let doEvento := (eventId.bind s.igrejaDoEvento?).filter fun igreja =>
        isSuperAdmin autor || igreja ∈ minhas
      pure (doEvento.or minhas.head?)

/-- `assertEventoDaIgreja`. -/
def assertEventoDaIgreja (eventId igreja : Option Id) : Except Failure Unit :=
  match eventId with
  | none => pure ()
  | some eventId =>
      failIf ((s.painel.evento? eventId).map (fun e => some e.churchId) ≠ some igreja)
        (badRequest "O evento escolhido é de outra igreja que não a da notícia")

/-- `assertDestinosDaIgreja`. -/
def assertDestinosDaIgreja (igreja : Option Id) (groupRoleIds : Option (List Id))
    (links : Option (List (List Char))) : Except Failure Unit :=
  let grupos := groupRoleIds.getD []
  if grupos = [] ∧ links.getD [] = [] then pure ()
  else
    match igreja with
    | none =>
        throw (badRequest
          "Notícia sem igreja não sai no WhatsApp: não há número por onde enviar.")
    | some igreja =>
        let daIgreja := s.grupos.filter fun grupo => s.igrejaDoEvento? grupo.eventId = some igreja
        failIf (grupos ≠ [] ∧
            (daIgreja.filter fun grupo => grupo.id ∈ grupos).length ≠ grupos.eraseDups.length)
          (badRequest "Há grupos de eventos de outra igreja na lista de destinos")

/-- `assertNoticiaDaIgreja`. -/
def assertNoticiaDaIgreja (noticia : News) (requesterId : Option Id) :
    Except Failure (Option TenantRequester) :=
  match requesterId with
  | none => pure none
  | some requesterId => do
      let requester := s.painel.tenant? requesterId
      assertChurchAccess requester noticia.churchId
        "Esta notícia é de uma igreja que você não administra"
      pure requester

/-- The church is there: the foreign key of a news. -/
def exigirIgreja (igreja : Option Id) : Except Failure Unit :=
  failIf (igreja.any fun igreja => (s.painel.igreja? igreja).isNone) (internalServerError "P2003")

/-- `exigirModulo` of the church of a news, which who sees every module is not asked for. -/
def exigirNoticias (requester : Option TenantRequester) (igreja : Option Id) :
    Except Failure Unit :=
  match igreja.filter fun _ => !isSuperAdmin requester with
  | some igreja => s.exigirModulo igreja
  | none => pure ()

/-- What a request to publish has read when it writes. -/
structure Lida where
  eventId : Option Id
  igreja : Option Id
  links : Option (List (List Char))

/-- The reads and checks of `create`. -/
def lerParaCriar (data : NewsDto) (authorId : Option Id) : Except Failure Lida := do
  conferirImagem data
  let autor := authorId.bind s.painel.tenant?
  let eventId ← s.resolvePublico autor (data.eventId.getD none)
  let igreja ← s.igrejaDaPublicacao autor eventId data.churchId
  s.exigirNoticias autor igreja
  let links ← data.groupLinks.mapM normalizaLinks
  s.assertEventoDaIgreja eventId igreja
  s.assertDestinosDaIgreja igreja data.groupRoleIds links
  s.exigirIgreja igreja
  pure ⟨eventId, igreja, links⟩

/-- The event of a news that is edited: without the field, the one it has. -/
def publicoEditado (requester : Option TenantRequester) (atual : News)
    (eventId : Option (Option Id)) : Except Failure (Option Id) :=
  match eventId with
  | none => pure atual.eventId
  | some eventId => s.resolvePublico requester eventId

/-- The church of a news that is edited. -/
def igrejaEditada (requester : Option TenantRequester) (atual : News) (pedida : Option Id) :
    Except Failure (Option Id) :=
  match pedida.filter fun igreja => some igreja ≠ atual.churchId with
  | some igreja => s.igrejaDaPublicacao requester none (some igreja)
  | none => pure atual.churchId

/-- The image of a news that is edited, uploaded before the news is written. -/
def imagemEditada (data : NewsDto) (atual : News) : Except Failure (Option String) :=
  match data.imageFile with
  | some arquivo => do
      let url ← subir arquivo
      pure (some url)
  | none => pure (if data.removeImage then none else atual.imageUrl)

/-- The reads and checks of `update`. -/
def lerParaAtualizar (id : Id) (data : NewsDto) (requesterId : Option Id) :
    Except Failure (News × Lida × Option String) := do
  let atual ← orFail (lookup News.id id s.noticias) (notFound "Notícia não encontrada")
  let requester ← s.assertNoticiaDaIgreja atual requesterId
  let eventId ← s.publicoEditado requester atual data.eventId
  let links ← data.groupLinks.mapM normalizaLinks
  let igreja ← s.igrejaEditada requester atual data.churchId
  s.exigirNoticias requester (igreja.filter fun igreja => some igreja ≠ atual.churchId)
  s.assertEventoDaIgreja eventId igreja
  s.assertDestinosDaIgreja igreja data.groupRoleIds links
  conferirImagem data
  let imageUrl ← imagemEditada data atual
  s.exigirIgreja igreja
  pure (atual, ⟨eventId, igreja, links⟩, imageUrl)

/-! ### Writes -/

/-- The creates of `sincronizaDestinos`; a repeated key stops them. -/
def criaDestinos (newsId : Id) (jaEstao : List Id) : List Id → Redacao → Redacao × Bool
  | [], s => (s, true)
  | grupo :: grupos, s =>
      if grupo ∈ jaEstao then criaDestinos newsId jaEstao grupos s
      else if s.destinos.any fun d => d.newsId = newsId && d.groupRoleId = grupo then (s, false)
      else
        criaDestinos newsId jaEstao grupos
          { s with destinos := s.destinos ++ [⟨newsId, grupo, ⟨none, none⟩⟩] }

/-- `sincronizaDestinos`, and whether it came to its end. -/
def sincronizaDestinos (newsId : Id) : Option (List Id) → Redacao × Bool
  | none => (s, true)
  | some groupRoleIds =>
      let atuais := (s.destinos.filter fun d => d.newsId = newsId).map NewsOnGroupRoles.groupRoleId
      criaDestinos newsId atuais groupRoleIds
        { s with
          destinos := s.destinos.filter fun d =>
            d.newsId ≠ newsId || d.groupRoleId ∈ groupRoleIds }

/-- `sincronizaLinks`. -/
def sincronizaLinks (newsId : Id) : Option (List (List Char)) → Redacao
  | none => s
  | some links =>
      let ficam := s.links.filter fun l => l.newsId ≠ newsId || links.any fun link => l.link = link
      let novos := links.filter fun link => !ficam.any fun l => l.newsId = newsId && l.link = link
      { s with links := ficam ++ novos.map fun link => ⟨newsId, link, ⟨none, none⟩⟩ }

/-- The two synchronisations: the links only after all the destinations. -/
def sincroniza (newsId : Id) (groupRoleIds : Option (List Id))
    (links : Option (List (List Char))) : Redacao :=
  match s.sincronizaDestinos newsId groupRoleIds with
  | (depois, true) => depois.sincronizaLinks newsId links
  | (depois, false) => depois

/-- The row of `news.create`. -/
def novaNoticia (data : NewsDto) (authorId : Option Id) (lida : Lida) (agora : Instant) : News where
  id := s.nextId
  title := trim data.title
  summary := resumo data.summary
  content := data.content
  imageUrl := none
  isPublished := data.isPublished
  publishedAt := if data.isPublished && !data.scheduled then some agora else none
  authorId := authorId
  churchId := lida.igreja
  eventId := lida.eventId

/-- The row of a new news is written. -/
def comNoticia (n : News) : Redacao :=
  { s with noticias := s.noticias ++ [n], nextId := s.nextId + 1 }

/-- Columns of a news are written. -/
def comEdicao (id : Id) (f : News → News) : Redacao :=
  { s with noticias := updateKey News.id id f s.noticias }

/-- The image of a new news, once it is uploaded. -/
def ilustra (newsId : Id) (data : NewsDto) : Redacao :=
  match data.imageFile.bind ImageFile.url with
  | some url => s.comEdicao newsId fun n => { n with imageUrl := some url }
  | none => s

/-- `create`. -/
def create (data : NewsDto) (authorId : Option Id) (agora : Instant) : Redacao :=
  match s.lerParaCriar data authorId with
  | .error _ => s
  | .ok lida =>
      let criada := s.comNoticia (s.novaNoticia data authorId lida agora)
      match criada.sincronizaDestinos s.nextId data.groupRoleIds with
      | (depois, true) => (depois.sincronizaLinks s.nextId lida.links).ilustra s.nextId data
      | (depois, false) => depois

/-- The columns of `news.update`. -/
def editada (data : NewsDto) (lida : Lida) (imageUrl : Option String) (agora : Instant)
    (atual : News) : News :=
  { atual with
    churchId := lida.igreja
    title := trim data.title
    summary := resumo data.summary
    content := data.content
    isPublished := data.isPublished
    eventId := lida.eventId
    imageUrl := imageUrl
    publishedAt :=
      if data.isPublished && !data.scheduled && atual.publishedAt.isNone then some agora
      else atual.publishedAt }

/-- `update`. -/
def update (id : Id) (data : NewsDto) (requesterId : Option Id) (agora : Instant) : Redacao :=
  match s.lerParaAtualizar id data requesterId with
  | .error _ => s
  | .ok (_, lida, imageUrl) =>
      (s.comEdicao id (editada data lida imageUrl agora)).sincroniza id data.groupRoleIds lida.links

/-- News are deleted, with their destinations and links. -/
def apagarNoticias (p : News → Bool) : Redacao :=
  let apagada := fun newsId => s.noticias.any fun n => n.id = newsId && p n
  { s with
    noticias := s.noticias.filter fun n => !p n
    destinos := s.destinos.filter fun d => !apagada d.newsId
    links := s.links.filter fun l => !apagada l.newsId }

/-- `remove`. -/
def remove (id : Id) (requesterId : Option Id) : Redacao :=
  match (do
    let atual ← orFail (lookup News.id id s.noticias) (notFound "Notícia não encontrada")
    s.assertNoticiaDaIgreja atual requesterId) with
  | .error _ => s
  | .ok _ => s.apagarNoticias fun n => n.id = id

/-- Groups of registration are deleted, and with them they as destinations. -/
def apagarGrupos (p : GroupRoles → Bool) : Redacao :=
  { s with
    grupos := s.grupos.filter fun grupo => !p grupo
    destinos := s.destinos.filter fun d =>
      !s.grupos.any fun grupo => grupo.id = d.groupRoleId && p grupo }

/-- An event is deleted: its groups, the news for it, and its row. -/
def apagarEvento (eventId : Id) : Redacao :=
  let semGrupos := s.apagarGrupos fun grupo => grupo.eventId = eventId
  let semNoticias := semGrupos.apagarNoticias fun n => n.eventId = some eventId
  { semNoticias with
    painel :=
      { s.painel with eventos := deleteKey EventoDaIgreja.id eventId s.painel.eventos } }

/-- A church without events is deleted, and its news with it. -/
def apagarIgreja (id : Id) : Redacao :=
  if s.painel.eventos.any fun e => e.churchId = id then s
  else
    let semNoticias := s.apagarNoticias fun n => n.churchId = some id
    { semNoticias with
      painel := { s.painel with igrejas := deleteKey Igreja.id id s.painel.igrejas } }

/-! ### Runs -/

inductive Acao where
  | create (data : NewsDto) (authorId : Option Id) (agora : Instant)
  | update (id : Id) (data : NewsDto) (requesterId : Option Id) (agora : Instant)
  | remove (id : Id) (requesterId : Option Id)
  /-- a schedule puts the news on air -/
  | publicar (id : Id) (agora : Instant)
  /-- a dispatch notes what came of a destination, or of a link -/
  | marcarDestino (newsId groupRoleId : Id) (agora : Instant) (motivo : Option String)
  | marcarLink (newsId : Id) (link : List Char) (agora : Instant) (motivo : Option String)
  /-- the church of an event changes -/
  | moverEvento (eventId churchId : Id)
  | criarEvento (churchId : Id)
  | apagarEvento (eventId : Id)
  | criarGrupo (eventId : Id)
  | apagarGrupo (id : Id)
  | apagarIgreja (id : Id)
  /-- people, roles, churches and plans change -/
  | mudarPainel (painel : Painel) (modulos : Id → List ChurchModule)

def agir : Acao → Redacao
  | .create data authorId agora => s.create data authorId agora
  | .update id data requesterId agora => s.update id data requesterId agora
  | .remove id requesterId => s.remove id requesterId
  | .publicar id agora =>
      s.comEdicao id fun n => { n with isPublished := true, publishedAt := some agora }
  | .marcarDestino newsId groupRoleId agora motivo =>
      { s with
        destinos := s.destinos.map fun d =>
          if d.newsId = newsId && d.groupRoleId = groupRoleId then
            { d with resultado := d.resultado.comMotivo agora motivo }
          else d }
  | .marcarLink newsId link agora motivo =>
      { s with
        links := s.links.map fun l =>
          if l.newsId = newsId && l.link = link then
            { l with resultado := l.resultado.comMotivo agora motivo }
          else l }
  | .moverEvento eventId churchId =>
      { s with
        painel :=
          { s.painel with
            eventos := updateKey EventoDaIgreja.id eventId (fun e => { e with churchId })
              s.painel.eventos } }
  | .criarEvento churchId =>
      { s with
        painel := { s.painel with eventos := s.painel.eventos ++ [⟨s.nextId, churchId⟩] }
        nextId := s.nextId + 1 }
  | .apagarEvento eventId => s.apagarEvento eventId
  | .criarGrupo eventId =>
      { s with grupos := s.grupos ++ [⟨s.nextId, eventId⟩], nextId := s.nextId + 1 }
  | .apagarGrupo id => s.apagarGrupos fun grupo => grupo.id = id
  | .apagarIgreja id => s.apagarIgreja id
  | .mudarPainel painel modulos =>
      { s with painel := { painel with eventos := s.painel.eventos }, modulos }

end Redacao

end Publicacao

end IccvBackend
