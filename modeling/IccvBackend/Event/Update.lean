/-
Module: IccvBackend.Event.Update
Purpose: `EventService.update` whole, in `event/event.service.ts`: what it checks, what it writes at
  once, and its two transactions, with every step that the database or the storage can fail.
Trusted boundary: human-reviewed spec
Main exports: EventForm, BancoDoEvento, PassoDaEdicao, BancoDoEvento.validarEdicao,
  operacoesDeGruposCom, BancoDoEvento.update
-/
import IccvBackend.Auth.Tenant
import IccvBackend.Event.Minors

namespace IccvBackend

open Lib

/-!
The groups, roles and products are those of `Event.Edit`, the row of the event and the minors those
of `Event.Minors`.  What a step throws when the database, the storage or a file is at fault comes
with the environment, step by step.  The notice of the new event and the mails to the team never
throw, and are left out.
-/

/-! ### The form -/

structure AssinaturaDto where
  name : String
  role : Option String
  signature : Option String
deriving DecidableEq

structure ConfigurarCertificadoDto where
  enabled : Bool
  workload : Option String
  signers : List AssinaturaDto
deriving DecidableEq

structure TesoureiroDoEventoDto where
  userId : Id
  kind : EventTreasurerKind
deriving DecidableEq

/-- The whole form of an event.  What is absent changes nothing. -/
structure EventForm extends EventDto where
  dados : DadosDoEvento
  groupLink : Option String
  churchId : Option Id
  adminIds : Option (List Id)
  tesoureiros : Option (List TesoureiroDoEventoDto)
  certificate : Option ConfigurarCertificadoDto
deriving DecidableEq

/-! ### The tables -/

/-- The columns of an event that only its edit writes. -/
structure ColunasDoEvento where
  eventId : Id
  groupLink : Option String
  updateAt : Instant
deriving Repr, DecidableEq

structure Assinatura where
  name : String
  role : String
  signature : Option String
deriving Repr, DecidableEq

structure EventCertificate where
  eventId : Id
  enabled : Bool
  workload : Option String
  signers : List Assinatura
  updatedAt : Instant
deriving Repr, DecidableEq

/-- The tables an edit writes.  The team is in `painel`. -/
structure BancoDoEvento where
  db : Database
  painel : Painel
  colunas : List ColunasDoEvento
  certificados : List EventCertificate

/-- The steps that can fail for a reason of their own: a file, the storage, the database. -/
inductive PassoDaEdicao where
  | arquivos
  | lerEvento
  | lerRequerente
  | lerEquipe
  | lerNome
  | uploads
  | modulos
  | menores
  | criarGrupo (indice : Nat)
  | produtos
  | transacao
  | equipe
  | reler
deriving DecidableEq

structure AmbienteDoEvento where
  textos : Textos
  /-- what a step throws before it does anything -/
  falha : PassoDaEdicao → Except Failure Unit
  /-- what a write throws when it is already in the database -/
  perde : PassoDaEdicao → Except Failure Unit
  agora : Instant

/-! ### Checks -/

/-- `perfilNaIgreja`. -/
def perfilNaIgreja (requester : Option TenantRequester) (churchId : Id) : Option Int :=
  requester.bind fun requester =>
    (requester.churchRoles.find? fun item => item.churchId = churchId).map VinculoDeIgreja.role

/-- `assertChurchAccess`. -/
def assertChurchAccess (requester : Option TenantRequester) (churchId : Id) (roles : List Int)
    (message : String) : Except Failure Unit :=
  failIf (¬ isSuperAdmin requester ∧ churchId ∉ churchIdsComPerfil requester roles)
    (forbidden message)

namespace BancoDoEvento

variable (amb : AmbienteDoEvento) (banco : BancoDoEvento)

/-- Who may edit the event, and the church it moves to. -/
def conferirAcesso (event : Event) (form : EventForm) (requesterId : Id) :
    Except Failure (Option Id) := do
  amb.falha .lerRequerente
  let requester := banco.painel.tenant? requesterId
  let soAdminDoEvento := !isSuperAdmin requester &&
    perfilNaIgreja requester event.churchId ≠ some Role.admin &&
    banco.painel.adminDoEvento requesterId event.id
  if soAdminDoEvento then
    failIf (form.adminIds.isSome ∨ form.tesoureiros.isSome)
      (forbidden "Só o admin da igreja define os admins e tesoureiros(as) do evento")
  else
    assertChurchAccess requester event.churchId [Role.admin]
      "Você não administra a igreja deste evento"
  let novaIgreja := form.churchId.filter fun churchId =>
    isSuperAdmin requester && churchId ≠ event.churchId
  failIf (novaIgreja.any fun churchId => (banco.db.catalogue.church? churchId).isNone)
    (badRequest "Igreja não encontrada")
  pure novaIgreja

/-- `validarEquipe`. -/
def validarEquipe (form : EventForm) : Except Failure Unit := do
  let adminIds := form.adminIds.getD []
  let tesoureiros := (form.tesoureiros.getD []).map TesoureiroDoEventoDto.userId
  failIf (¬ adminIds.Nodup ∨ ¬ tesoureiros.Nodup) (badRequest "A mesma pessoa aparece duas vezes")
  let ids := adminIds ++ tesoureiros
  if ids.isEmpty then pure ()
  else
    amb.falha .lerEquipe
    failIf (ids.any fun id => (banco.db.catalogue.user? id).isNone)
      (badRequest "Pessoa da equipe do evento não encontrada")

/-- What is known when the checks are over. -/
structure EdicaoConferida where
  event : Event
  novaIgreja : Option Id
  name : String

/-- Everything before the first write. -/
def validarEdicao (id : Id) (form : EventForm) (requesterId : Option Id) :
    Except Failure EdicaoConferida := do
  amb.falha .arquivos
  amb.falha .lerEvento
  let event ← orFail (banco.db.catalogue.event? id) (notFound "Event does not exist")
  let novaIgreja ←
    match requesterId with
    | none => pure none
    | some requesterId => banco.conferirAcesso amb event form requesterId
  banco.validarEquipe amb form
  let name := amb.textos.trim form.dados.name
  failIf (name = "") (badRequest "O nome do evento é obrigatório")
  amb.falha .lerNome
  failIf (banco.db.catalogue.events.any fun other =>
      other.id ≠ id && amb.textos.minusculas other.name = amb.textos.minusculas name)
    (conflict "Já existe um evento com esse nome!")
  amb.falha .uploads
  amb.falha .modulos
  if idadeDoTermo (form.dados.gravar name event) ≠ idadeDoTermo event then
    amb.falha .menores
  pure ⟨event, novaIgreja, name⟩

end BancoDoEvento

/-! ### Groups -/

/-- A group of the form, before its roles: the window is checked, and a new group is inserted. -/
def abrirGrupo (falha : Except Failure Unit) (eventId : Id) (lido : Option GrupoLido)
    (grupo : GroupRoleDto) (db : Database) :
    Except Failure (Database × Id × List OperacaoDeEdicao) := do
  let janela ← janelaRecebida grupo
  match lido with
  | some lido => pure (db, lido.id, [.updateGroup lido.id grupo.name grupo.capacity janela])
  | none => do
      falha
      pure (db.createGroup eventId grupo janela, grupo.uuid, [])

/-- The answer to the insertion of a new group, and then the roles of the form. -/
def rolesDoGrupo (perde : Except Failure Unit) (lido : Option GrupoLido) (groupId : Id)
    (grupo : GroupRoleDto) : Except Failure (List OperacaoDeEdicao) := do
  if lido.isNone then perde
  let dbRoles := (lido.map GrupoLido.roles).getD []
  let removidas ← removerRoles dbRoles grupo.roles
  let gravadas ← gravarRoles dbRoles groupId grupo.roles
  pure (removidas ++ gravadas)

/-- The group of the first read that a group of the form names. -/
def GroupRoleDto.lido (grupo : GroupRoleDto) (lidos : List GrupoLido) : Option GrupoLido :=
  grupo.id.bind fun id => lidos.find? fun g => g.id = id

/-- "CRIAR / ATUALIZAR GRUPOS E ROLES", where an insertion can fail too. -/
def gravarGruposCom (falha perde : Nat → Except Failure Unit) (eventId : Id)
    (lidos : List GrupoLido) : Nat → List GroupRoleDto → Database → List OperacaoDeEdicao →
      Database × Except Failure (List OperacaoDeEdicao)
  | _, [], db, ops => (db, pure ops)
  | i, grupo :: resto, db, ops =>
      match abrirGrupo (falha i) eventId (grupo.lido lidos) grupo db with
      | .error falhou => (db, throw falhou)
      | .ok (aberto, groupId, atualiza) =>
          match rolesDoGrupo (perde i) (grupo.lido lidos) groupId grupo with
          | .error falhou => (aberto, throw falhou)
          | .ok gravadas =>
              gravarGruposCom falha perde eventId lidos (i + 1) resto aberto
                (ops ++ atualiza ++ gravadas)

/-- The group part of `update`. -/
def operacoesDeGruposCom (falha perde : Nat → Except Failure Unit) (eventId : Id)
    (lidos : List GrupoLido) (recebidos : List GroupRoleDto) (db : Database) :
    Database × Except Failure (List OperacaoDeEdicao) :=
  if recebidos.isEmpty then (db, pure [])
  else
    match removerGrupos lidos recebidos with
    | .error falhou => (db, throw falhou)
    | .ok removidos => gravarGruposCom falha perde eventId lidos 0 recebidos db removidos

/-! ### The transactions -/

/-- `certificadoParaGravar`. -/
def ConfigurarCertificadoDto.row (textos : Textos) (eventId : Id) (agora : Instant)
    (dto : ConfigurarCertificadoDto) : EventCertificate where
  eventId := eventId
  enabled := dto.enabled
  workload := (dto.workload.map textos.trim).filter fun texto => texto ≠ ""
  signers := dto.signers.map fun s => ⟨s.name, s.role.getD "", s.signature⟩
  updatedAt := agora

namespace BancoDoEvento

variable (amb : AmbienteDoEvento) (banco : BancoDoEvento)

/-- `event.update`, with the minors its new limit reclassifies. -/
def gravarEvento (id : Id) (form : EventForm) (conferida : EdicaoConferida) : BancoDoEvento :=
  let novo := form.dados.gravar conferida.name conferida.event
  let revisto :=
    if idadeDoTermo novo ≠ idadeDoTermo conferida.event then
      banco.db.reclassificarMenores id novo.startDate (idadeDoTermo novo)
    else banco.db
  { banco with
    db := revisto.modifyEvent id fun event =>
      { form.dados.gravar conferida.name event with
        churchId := conferida.novaIgreja.getD event.churchId }
    painel :=
      { banco.painel with
        eventos := updateKey EventoDaIgreja.id id
          (fun evento => { evento with churchId := conferida.novaIgreja.getD evento.churchId })
          banco.painel.eventos }
    colunas := updateKey ColunasDoEvento.eventId id
      (fun colunas =>
        { colunas with
          groupLink := form.groupLink.orElse fun _ => colunas.groupLink
          updateAt := amb.agora })
      banco.colunas }

/-- The first transaction: the event, its groups and roles, its products. -/
def primeiraTransacao (id : Id) (form : EventForm) (conferida : EdicaoConferida)
    (ops : List OperacaoDeEdicao) : Except Failure BancoDoEvento := do
  amb.falha .transacao
  let gravado := banco.gravarEvento amb id form conferida
  let db ← gravado.db.gravarEdicao ops
  pure { gravado with db := db }

/-- The certificate, where it comes. -/
def gravarCertificado (id : Id) (form : EventForm) : BancoDoEvento :=
  match form.certificate with
  | none => banco
  | some dto =>
      { banco with
        certificados := (banco.certificados.filter fun c => c.eventId ≠ id) ++
          [dto.row amb.textos id amb.agora] }

/-- The admins of `gravarEquipe`: the list that comes replaces the others. -/
def gravarAdmins (id : Id) (adminIds : List Id) : BancoDoEvento :=
  let ficam := banco.painel.eventAdmins.filter fun v => v.eventId ≠ id || v.userId ∈ adminIds
  let entram := adminIds.filter fun userId => ⟨id, userId⟩ ∉ banco.painel.eventAdmins
  { banco with painel.eventAdmins := ficam ++ entram.map fun userId => ⟨id, userId⟩ }

/-- The treasurers of `gravarEquipe`. -/
def gravarTesoureiros (id : Id) (tesoureiros : List TesoureiroDoEventoDto) : BancoDoEvento :=
  let outros := banco.painel.eventTreasurers.filter fun v => v.eventId ≠ id
  { banco with
    painel.eventTreasurers := outros ++ tesoureiros.map fun t => ⟨id, t.userId, t.kind⟩ }

/-- The second transaction: the certificate and the team. -/
def segundaTransacao (id : Id) (form : EventForm) : Except Failure BancoDoEvento := do
  amb.falha .equipe
  let comCertificado := banco.gravarCertificado amb id form
  let comAdmins := (form.adminIds.map (comCertificado.gravarAdmins id)).getD comCertificado
  pure ((form.tesoureiros.map (comAdmins.gravarTesoureiros id)).getD comAdmins)

/-- The writes of the products: no list is a client that does not know them. -/
def operacoesDosProdutos (id : Id) (form : EventForm) : Except Failure (List OperacaoDeEdicao) :=
  match form.products with
  | none => pure []
  | some recebidos => do
      amb.falha .produtos
      operacoesDeProdutos amb.textos banco.db id recebidos

/-- From the diff of the products to the end of the first transaction. -/
def gravarTudo (id : Id) (form : EventForm) (conferida : EdicaoConferida)
    (ops : List OperacaoDeEdicao) : Except Failure BancoDoEvento := do
  let mais ← banco.operacoesDosProdutos amb id form
  banco.primeiraTransacao amb id form conferida (ops ++ mais)

/-- From the answer to the first transaction to the end. -/
def concluir (id : Id) (form : EventForm) : BancoDoEvento × Except Failure Unit :=
  match amb.perde .transacao with
  | .error falhou => (banco, throw falhou)
  | .ok _ =>
      match banco.segundaTransacao amb id form with
      | .error falhou => (banco, throw falhou)
      | .ok depois =>
          (depois, do
            amb.perde .equipe
            amb.falha .reler)

/-- `EventService.update`: what is in the tables when it returns or throws. -/
def update (id : Id) (form : EventForm) (requesterId : Option Id) :
    BancoDoEvento × Except Failure Unit :=
  match banco.validarEdicao amb id form requesterId with
  | .error falhou => (banco, throw falhou)
  | .ok conferida =>
      match operacoesDeGruposCom (fun i => amb.falha (.criarGrupo i))
          (fun i => amb.perde (.criarGrupo i)) id (banco.db.lerGrupos id)
          form.groupRoles banco.db with
      | (db, .error falhou) => ({ banco with db := db }, throw falhou)
      | (db, .ok ops) =>
          match ({ banco with db := db } : BancoDoEvento).gravarTudo amb id form conferida ops with
          | .error falhou => ({ banco with db := db }, throw falhou)
          | .ok gravado => gravado.concluir amb id form

end BancoDoEvento

end IccvBackend
