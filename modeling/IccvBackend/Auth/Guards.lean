/-
Module: IccvBackend.Auth.Guards
Purpose: `decorators/roles.guard.ts` and `decorators/event-tenant.guard.ts`.
Trusted boundary: human-reviewed spec
Main exports: Rota, RequisicaoDeEvento, rolesGuard, resolveEventId, eventTenantGuard
-/
import IccvBackend.Auth.Tenant
import IccvBackend.Lib.Fallible

namespace IccvBackend

open Lib

/-! What the guards leave in the request for the handlers is left out. -/

/-- The decorators of a route: the list of `@Roles` and the two marks. -/
structure Rota where
  roles : List Int
  aceitaTesoureiro : Bool
  aceitaAdminDoEvento : Bool
deriving Repr, DecidableEq

/-- The person of the token and the parameters of the path. -/
structure RequisicaoDeEvento where
  userId : Option Id
  idUser : Option Id
  idEvent : Option Id
  eventId : Option Id
  paymentId : Option Id
deriving Repr, DecidableEq

namespace Painel

variable (db : Painel)

/-- `RolesGuard.canActivate`. -/
def rolesGuard (rota : Rota) (pedido : RequisicaoDeEvento) : Except Failure Unit :=
  if rota.roles = [] then pure ()
  else do
    let userId ← orFail pedido.userId (unauthorized "Usuário não autenticado")
    let pessoa ← orFail (db.tenant? userId) (unauthorized "Usuário não encontrado")
    failIf (userId ∈ db.bloqueios)
      (unauthorized "Sua conta está bloqueada. Fale com a organização.")
    failIf (¬ (perfilEfetivo (some pessoa) ∈ rota.roles ∨
        (rota.aceitaTesoureiro ∧ db.temVinculoDeTesoureiro userId) ∨
        (Role.admin ∈ rota.roles ∧ rota.aceitaAdminDoEvento ∧
          db.temVinculoDeAdminDeEvento userId)))
      (forbidden "Você não tem permissão para acessar este recurso")

/-- `resolveEventId`: the event of the path or of the payment; none when the route has no church. -/
def resolveEventId (pedido : RequisicaoDeEvento) : Except Failure (Option Id) :=
  match pedido.idEvent <|> pedido.eventId with
  | some eventId => pure (some eventId)
  | none =>
      match pedido.paymentId with
      | none => pure none
      | some paymentId => do
          let payment ← orFail (lookup PagamentoDoEvento.id paymentId db.pagamentos)
            (notFound "Pagamento não encontrado")
          let eventId ← orFail payment.eventId
            (forbidden ("Este pagamento não está ligado a nenhum evento, " ++
              "e não há como saber de qual igreja ele é"))
          pure (some eventId)

/-- `perfisDaRota`. -/
def perfisDaRota (exigidos : List Int) : List Int :=
  let deIgreja := exigidos.filter fun perfil => perfil ∈ Role.churchRoles
  if deIgreja = [] then Role.churchRoles else deIgreja

/-- `temVinculoDaqui`: a treasurer or an admin of this event, on a route that takes each. -/
def temVinculoDaqui (rota : Rota) (pedido : RequisicaoDeEvento) (userId : Id) :
    Except Failure Bool :=
  let aceitaAdminDoEvento :=
    (rota.roles = [] || Role.admin ∈ rota.roles) && rota.aceitaAdminDoEvento
  if !rota.aceitaTesoureiro && !aceitaAdminDoEvento then pure false
  else do
    match ← db.resolveEventId pedido with
    | none => pure false
    | some eventId =>
        pure ((rota.aceitaTesoureiro && (db.tesoureiroDoEvento userId eventId).isSome) ||
          (aceitaAdminDoEvento && db.adminDoEvento userId eventId))

/-- `EventTenantGuard.canActivate`. -/
def eventTenantGuard (rota : Rota) (pedido : RequisicaoDeEvento) : Except Failure Unit := do
  let userId ← orFail pedido.userId (unauthorized "Usuário não autenticado")
  let requester ← orFail (db.tenant? userId) (unauthorized "Usuário não encontrado")
  let exigidos := rota.roles
  if exigidos = [] ∧ pedido.idUser = some userId then pure ()
  else if exigidos ≠ [] ∧ perfilEfetivo (some requester) ∉ exigidos then
    let daqui ← db.temVinculoDaqui rota pedido userId
    failIf (!daqui) (forbidden "Você não é tesoureiro(a) nem admin deste evento")
  else
    match tenantChurchIds (some requester) (perfisDaRota exigidos) with
    | none => pure ()
    | some churchIds =>
        match ← db.resolveEventId pedido with
        | none => pure ()
        | some eventId =>
            let event ← orFail (db.evento? eventId) (notFound "Event does not exist")
            if event.churchId ∈ churchIds then pure ()
            else
              let daqui ← db.temVinculoDaqui rota pedido userId
              failIf (!daqui) (forbidden "Você não tem esta permissão na igreja deste evento")

end Painel

end IccvBackend
