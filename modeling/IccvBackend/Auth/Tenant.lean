/-
Module: IccvBackend.Auth.Tenant
Purpose: `auth/roles.ts`, `auth/tenant.ts`, `auth/tesoureiro-do-evento.ts` and
  `auth/admin-do-evento.ts`: who administers which church, and the tables that say so.
Trusted boundary: human-reviewed spec
Main exports: Role, VinculoDeIgreja, TenantRequester, Painel, perfilEfetivo, isSuperAdmin,
  churchIdsComPerfil, tenantChurchIds, Painel.tenant?
-/
import IccvBackend.Lib.Table
import IccvBackend.Lib.Text
import IccvBackend.Prisma.Schema

namespace IccvBackend

open Lib

/-! ### `roles.ts`

A role is the number of the column: nothing in the schema limits it. -/

namespace Role

def dev : Int := -1
def superAdmin : Int := 1
def admin : Int := 2
def tesouraria : Int := 3
def user : Int := 5

/-- `SUPER_ADMIN_ROLES`. -/
def superAdminRoles : List Int := [dev, superAdmin]

/-- `ADMIN_ROLES`. -/
def adminRoles : List Int := superAdminRoles ++ [admin]

/-- `CHURCH_ROLES`. -/
def churchRoles : List Int := [admin, tesouraria]

/-- `ADMIN_AREA_ROLES`. -/
def adminAreaRoles : List Int := adminRoles ++ [tesouraria]

end Role

/-- `isAdminRole`. -/
def isAdminRole (role : Option Int) : Bool := role.any fun role => role ∈ Role.adminRoles

/-- `isDevRole`. -/
def isDevRole (role : Option Int) : Bool := role = some Role.dev

/-! ### Rows -/

inductive ChurchStatus where
  | active
  | inactive
  | test
deriving Repr, DecidableEq

structure Igreja where
  id : Id
  name : String
  status : ChurchStatus
  spiritualLeaderId : Option Id
  planId : Option Id
deriving Repr, DecidableEq

/-- What a person's record says of health and religion, and when they agreed to it. -/
structure DadosSensiveis where
  religion : Option String
  diabetes : Option Bool
  hypertensive : Option Bool
deriving Repr, DecidableEq

/-- A user.  `cadastro` holds the other columns of the record. -/
structure Pessoa where
  id : Id
  role : Int
  email : String
  cpf : String
  password : String
  fullName : String
  sensiveis : DadosSensiveis
  sensitiveConsentAt : Option Instant
  memberChurchId : Option Id
  requestedChurchId : Option Id
  otherChurchName : Option String
  cadastro : Json
deriving Repr, DecidableEq

/-- A link of the panel (`UserChurchRole`): the role of a person in a church. -/
structure UserChurchRole where
  userId : Id
  churchId : Id
  role : Int
deriving Repr, DecidableEq

/-- The event and the church of a person's registration, waiting place or office in an event. -/
structure NoEvento where
  eventId : Id
  userId : Id
deriving Repr, DecidableEq

inductive EventTreasurerKind where
  | basico
  | completo
deriving Repr, DecidableEq

structure EventTreasurer where
  eventId : Id
  userId : Id
  kind : EventTreasurerKind
deriving Repr, DecidableEq

structure EventoDaIgreja where
  id : Id
  churchId : Id
deriving Repr, DecidableEq

/-- The event of a payment. -/
structure PagamentoDoEvento where
  id : Id
  eventId : Option Id
deriving Repr, DecidableEq

/-- The wrong current passwords of an account, and until when the check is locked. -/
structure ErrosDeSenha where
  quantos : Nat
  travadoAte : Option Instant
deriving Repr, DecidableEq

/-- The tables that say who administers what.  `errosDeSenhaAtual` is in the memory of the
process. -/
structure Painel where
  igrejas : List Igreja
  planos : List Id
  pessoas : List Pessoa
  bloqueios : List Id
  churchRoles : List UserChurchRole
  eventos : List EventoDaIgreja
  eventTreasurers : List EventTreasurer
  eventAdmins : List NoEvento
  inscricoes : List NoEvento
  esperas : List NoEvento
  pagamentos : List PagamentoDoEvento
  errosDeSenhaAtual : Id → Option ErrosDeSenha
  nextId : Id

/-! ### `tenant.ts` -/

structure VinculoDeIgreja where
  churchId : Id
  role : Int
deriving Repr, DecidableEq

/-- What `SELECT_TENANT` brings: the stored role, and the links that hold. -/
structure TenantRequester where
  role : Int
  churchRoles : List VinculoDeIgreja
deriving Repr, DecidableEq

/-- `perfilEfetivo`. -/
def perfilEfetivo (pessoa : Option TenantRequester) : Int :=
  match pessoa with
  | none => Role.user
  | some pessoa =>
      if pessoa.role ∈ Role.superAdminRoles then pessoa.role
      else
        let perfis := pessoa.churchRoles.map VinculoDeIgreja.role
        if Role.admin ∈ perfis then Role.admin
        else if Role.tesouraria ∈ perfis then Role.tesouraria
        else Role.user

/-- `isSuperAdmin`. -/
def isSuperAdmin (requester : Option TenantRequester) : Bool :=
  requester.any fun requester => requester.role ∈ Role.superAdminRoles

/-- `churchIdsComPerfil`. -/
def churchIdsComPerfil (requester : Option TenantRequester) (roles : List Int) : List Id :=
  match requester with
  | none => []
  | some requester =>
      (requester.churchRoles.filter fun vinculo => vinculo.role ∈ roles).map
        VinculoDeIgreja.churchId

/-- `tenantChurchIds`: the churches the person reaches, or none when there is nothing to cut. -/
def tenantChurchIds (requester : Option TenantRequester) (roles : List Int) : Option (List Id) :=
  if isSuperAdmin requester then none
  else if ¬ requester.any fun requester => requester.role ∈ Role.churchRoles then none
  else some (churchIdsComPerfil requester roles)

namespace Painel

variable (db : Painel)

def igreja? (id : Id) : Option Igreja := lookup Igreja.id id db.igrejas

def pessoa? (id : Id) : Option Pessoa := lookup Pessoa.id id db.pessoas

def evento? (id : Id) : Option EventoDaIgreja := lookup EventoDaIgreja.id id db.eventos

/-- `VINCULO_VALE`: the church is there and not inactive. -/
def vale (churchId : Id) : Bool :=
  (db.igreja? churchId).any fun igreja => igreja.status ≠ .inactive

/-- All the links of a person. -/
def vinculosDe (userId : Id) : List VinculoDeIgreja :=
  (db.churchRoles.filter fun v => v.userId = userId).map fun v => ⟨v.churchId, v.role⟩

/-- The links of a person with churches that are not inactive. -/
def vinculosQueValem (userId : Id) : List VinculoDeIgreja :=
  (db.vinculosDe userId).filter fun v => db.vale v.churchId

/-- `findUnique` with `SELECT_TENANT`. -/
def tenant? (userId : Id) : Option TenantRequester :=
  (db.pessoa? userId).map fun pessoa => ⟨pessoa.role, db.vinculosQueValem userId⟩

/-- The person with the role that the links give. -/
def comPerfilEfetivo (pessoa : Pessoa) : Pessoa :=
  { pessoa with role := perfilEfetivo (some ⟨pessoa.role, db.vinculosQueValem pessoa.id⟩) }

/-! ### `tesoureiro-do-evento.ts` and `admin-do-evento.ts` -/

/-- `DE_IGREJA_QUE_VALE`. -/
def eventoVale (eventId : Id) : Bool := (db.evento? eventId).any fun e => db.vale e.churchId

def temVinculoDeTesoureiro (userId : Id) : Bool :=
  db.eventTreasurers.any fun v => v.userId = userId && db.eventoVale v.eventId

/-- `tesoureiroDoEvento`. -/
def tesoureiroDoEvento (userId eventId : Id) : Option EventTreasurerKind :=
  (db.eventTreasurers.find? fun v =>
    v.userId = userId && v.eventId = eventId && db.eventoVale v.eventId).map EventTreasurer.kind

def temVinculoDeAdminDeEvento (userId : Id) : Bool :=
  db.eventAdmins.any fun v => v.userId = userId && db.eventoVale v.eventId

/-- `adminDoEvento`. -/
def adminDoEvento (userId eventId : Id) : Bool :=
  db.eventAdmins.any fun v => v.userId = userId && v.eventId = eventId && db.eventoVale v.eventId

/-- `alcanceDoAdminDeEvento`: the churches of the events the person is an admin of. -/
def alcanceDoAdminDeEvento (userId : Id) : List Id :=
  (db.eventAdmins.filterMap fun v =>
    if v.userId = userId && db.eventoVale v.eventId then
      (db.evento? v.eventId).map EventoDaIgreja.churchId
    else none).eraseDups

/-! ### Scope -/

/-- The row takes its person to one of the churches. -/
def participa (userId : Id) (linhas : List NoEvento) (churchIds : List Id) : Bool :=
  linhas.any fun linha =>
    linha.userId = userId && (db.evento? linha.eventId).any fun e => e.churchId ∈ churchIds

/-- `pessoasDasIgrejas`, asked of one person. -/
def pessoaDasIgrejas (churchIds : List Id) (pessoa : Pessoa) : Bool :=
  ((db.vinculosDe pessoa.id).any fun v => v.churchId ∈ churchIds) ||
    db.participa pessoa.id db.inscricoes churchIds ||
    db.participa pessoa.id db.esperas churchIds ||
    (pessoa.memberChurchId.any fun id => id ∈ churchIds) ||
    pessoa.requestedChurchId.any fun id => id ∈ churchIds

/-- `userChurchScope`, asked of one person: without churches to cut by, everyone is in scope. -/
def noEscopo (requester : Option TenantRequester) (roles : List Int) (alvoId : Id) : Bool :=
  match tenantChurchIds requester roles with
  | none => true
  | some churchIds => (db.pessoa? alvoId).any (db.pessoaDasIgrejas churchIds)

end Painel

end IccvBackend
