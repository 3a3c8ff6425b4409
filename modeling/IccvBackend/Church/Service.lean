/-
Module: IccvBackend.Church.Service
Purpose: `church/church.service.ts`: creating, editing and removing churches, and the profiles that
  follow from it.
Trusted boundary: human-reviewed spec
Main exports: CreateChurchDto, vincularLider, recalcularPerfis, createChurch, updateChurch,
  removeChurch
-/
import IccvBackend.Auth.Tenant
import IccvBackend.Lib.Fallible

namespace IccvBackend

open Lib

/-! The notices of the events of a church that leaves `TEST` are left out. -/

/-- `CreateChurchDto`: a leader or a plan may come as null. -/
structure CreateChurchDto where
  name : String
  status : Option ChurchStatus
  spiritualLeaderId : Option (Option Id)
  planId : Option (Option Id)
deriving Repr, DecidableEq

namespace Painel

variable (db : Painel)

/-- `ensureNameIsAvailable`. -/
def ensureNameIsAvailable (name : String) (ignoreId : Option Id) : Except Failure Unit :=
  failIf (db.igrejas.any fun igreja =>
      toLowerCase igreja.name = toLowerCase name && some igreja.id ≠ ignoreId)
    (conflict "Já existe uma igreja com esse nome")

/-- `findLeaderOrFail`. -/
def findLeaderOrFail (userId : Option Id) : Except Failure (Option Id) :=
  match userId with
  | none => pure none
  | some userId => do
      let pessoa ← orFail (db.pessoa? userId) (badRequest "Usuário não encontrado")
      pure (some pessoa.id)

/-- `planoExiste`. -/
def planoExiste (planId : Option Id) : Except Failure Unit :=
  failIf (planId.any fun planId => planId ∉ db.planos) (badRequest "Plano não encontrado")

/-- `vincularLider`: the link of the leader is created, or becomes an admin's. -/
def vincularLider (churchId : Id) (lider : Option Id) : Painel :=
  match lider with
  | none => db
  | some userId =>
      { db with
        churchRoles :=
          if db.churchRoles.any fun v => v.userId = userId && v.churchId = churchId then
            db.churchRoles.map fun v =>
              if v.userId = userId && v.churchId = churchId then { v with role := Role.admin }
              else v
          else db.churchRoles ++ [⟨userId, churchId, Role.admin⟩] }

/-- `recalcularPerfis`: of everyone with a link with the church. -/
def recalcularPerfis (churchId : Id) : Painel :=
  { db with
    pessoas := db.pessoas.map fun pessoa =>
      if (db.vinculosDe pessoa.id).any fun v => v.churchId = churchId then
        db.comPerfilEfetivo pessoa
      else pessoa }

/-- `create`. -/
def createChurch (dto : CreateChurchDto) : Except Failure Painel := do
  let name := trim dto.name
  db.ensureNameIsAvailable name none
  let lider ← db.findLeaderOrFail dto.spiritualLeaderId.join
  db.planoExiste dto.planId.join
  let igreja : Igreja :=
    { id := db.nextId
      name := name
      status := dto.status.getD .active
      spiritualLeaderId := dto.spiritualLeaderId.join
      planId := dto.planId.join }
  let criada := { db with igrejas := db.igrejas ++ [igreja], nextId := db.nextId + 1 }
  pure ((criada.vincularLider igreja.id lider).recalcularPerfis igreja.id)

/-- `findOneOrFail`. -/
def igrejaOrFail (id : Id) : Except Failure Igreja :=
  orFail (db.igreja? id) (notFound "Igreja não encontrada")

/-- `update`: what did not come in the body stays as it is. -/
def updateChurch (id : Id) (dto : CreateChurchDto) : Except Failure Painel := do
  let name := trim dto.name
  let _ ← db.igrejaOrFail id
  db.ensureNameIsAvailable name (some id)
  let lider ← db.findLeaderOrFail dto.spiritualLeaderId.join
  db.planoExiste dto.planId.join
  let salva := { db with
    igrejas := updateKey Igreja.id id
      (fun igreja =>
        { igreja with
          name := name
          status := dto.status.getD igreja.status
          spiritualLeaderId := dto.spiritualLeaderId.getD igreja.spiritualLeaderId
          planId := dto.planId.getD igreja.planId })
      db.igrejas }
  pure ((salva.vincularLider id lider).recalcularPerfis id)

/-- What deleting a church leaves of a person: `onDelete: SetNull`. -/
def semIgreja (id : Id) (pessoa : Pessoa) : Pessoa :=
  { pessoa with
    memberChurchId := pessoa.memberChurchId.filter fun churchId => churchId ≠ id
    requestedChurchId := pessoa.requestedChurchId.filter fun churchId => churchId ≠ id }

/-- `remove`: only a church without events and without people of the panel. -/
def removeChurch (id : Id) : Except Failure Painel := do
  let church ← db.igrejaOrFail id
  let eventos := (db.eventos.filter fun e => e.churchId = id).length
  let administradores := (db.churchRoles.filter fun v => v.churchId = id).length
  let vinculos :=
    (if 0 < eventos then [toString eventos ++ " evento(s)"] else []) ++
      if 0 < administradores then [toString administradores ++ " administrador(es)"] else []
  failIf (0 < eventos ∨ 0 < administradores)
    (badRequest ("\"" ++ church.name ++ "\" ainda tem " ++ " e ".intercalate vinculos ++
      ". Remova ou transfira antes de apagar a igreja."))
  pure { db with
    igrejas := deleteKey Igreja.id id db.igrejas
    pessoas := db.pessoas.map (semIgreja id) }

end Painel

end IccvBackend
