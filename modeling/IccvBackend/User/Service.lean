/-
Module: IccvBackend.User.Service
Purpose: `user/user.service.ts`, `user/acesso.ts` and `user/dados-sensiveis.ts`: creating and
  editing records, and giving permissions.
Trusted boundary: human-reviewed spec
Main exports: UserDTO, mudaAcesso, aplicarConsentimento, resolveVinculos, createUser, updateUser,
  updateMe, atualizarPermissoesEmMassa
-/
import IccvBackend.Auth.Password
import IccvBackend.Lib.Fallible

namespace IccvBackend

open Lib

/-! ### Requests

A field of a body is absent, or null, or a value: `Option (Option α)`. -/

/-- `UserDTO`.  `corpo` holds the other columns that came. -/
structure UserDTO where
  email : Option (Option String)
  cpf : Option (Option String)
  role : Option (Option Int)
  churchRoles : Option (Option (List VinculoDeIgreja))
  fullName : Option String
  password : Option String
  religion : Option (Option String)
  diabetes : Option (Option Bool)
  hypertensive : Option (Option Bool)
  sensitiveDataConsent : Option Bool
  requestedChurchId : Option Id
  otherChurchName : Option String
  corpo : Json
deriving Repr, DecidableEq

/-- A body with nothing in it. -/
def UserDTO.vazio : UserDTO :=
  ⟨none, none, none, none, none, none, none, none, none, none, none, none, []⟩

/-- `UpdateMeDto`. -/
structure UpdateMeDto where
  dados : UserDTO
  currentPassword : Option String
deriving Repr, DecidableEq

/-- `PermissoesEmMassaDto`: without a role, the one of the church is taken away. -/
structure PermissoesEmMassaDto where
  userIds : List Id
  churchId : Id
  role : Option Int
deriving Repr, DecidableEq

/-- `SENHA_PADRAO`. -/
def senhaPadrao : String := "$2b$10$QGF/lucztAy.bqQFEQcSOOjP3fGMZfSsCIl4t.dfFo15Hh0v/C8xW"

/-- `EMAIL_EM_USO`. -/
def emailEmUsoTexto : String :=
  "Este e-mail já está em uso em outro cadastro. Use outro e-mail ou fale com a secretaria."

def naoPodeAlterar : Failure :=
  forbidden "Você não tem permissão para alterar o cadastro desta pessoa"

/-! ### `acesso.ts` and `dados-sensiveis.ts` -/

/-- `mudaAcesso`: the e-mail or the CPF came, and is another. -/
def mudaAcesso (pedido : UserDTO) (atual : Pessoa) : Bool :=
  (pedido.email.any fun email => email ≠ some atual.email) ||
    pedido.cpf.any fun cpf => cpf ≠ some atual.cpf

/-- `aplicarConsentimento`: what is stored of the sensitive data that came. -/
def aplicarConsentimento (data : UserDTO) (agora : Instant) (atual : Pessoa) : Pessoa :=
  let recebidos : DadosSensiveis :=
    { religion := (data.religion.map fun r => r.filter fun texto => texto ≠ "").getD
        atual.sensiveis.religion
      diabetes := data.diabetes.getD atual.sensiveis.diabetes
      hypertensive := data.hypertensive.getD atual.sensiveis.hypertensive }
  match data.sensitiveDataConsent with
  | some false => { atual with sensiveis := ⟨none, none, none⟩, sensitiveConsentAt := none }
  | some true =>
      { atual with
        sensiveis := recebidos
        sensitiveConsentAt := some (atual.sensitiveConsentAt.getD agora) }
  | none => if atual.sensitiveConsentAt.isSome then { atual with sensiveis := recebidos } else atual

/-- The columns that came over those there were. -/
def sobrepor (atual corpo : Json) : Json :=
  (atual.filter fun campo => !corpo.any fun novo => novo.1 = campo.1) ++ corpo

namespace Painel

variable (db : Painel)

/-! ### Creating -/

/-- `emailEmUso`. -/
def emailEmUso (email : String) (excetoId : Option Id) : Bool :=
  db.pessoas.any fun p => p.email = email && some p.id ≠ excetoId

/-- `igrejaDaInscricao`. -/
def igrejaDaInscricao (churchId : Option Id) : Except Failure (Option Id) :=
  match churchId with
  | none => pure none
  | some churchId => do
      let igreja ← orFail ((db.igreja? churchId).filter fun igreja => igreja.status = .active)
        (badRequest "Escolha uma igreja da lista")
      pure (some igreja.id)

/-- The query by CPF: an absent one does not filter. -/
def cpfEmUso (cpf : Option (Option String)) : Bool :=
  match cpf with
  | none => !db.pessoas.isEmpty
  | some cpf => db.pessoas.any fun p => some p.cpf = cpf

/-- `create`.  `hash` is `hashDaSenha`. -/
def createUser (hash : String → String) (data : UserDTO) (agora : Instant) :
    Except Failure Painel := do
  failIf (db.cpfEmUso data.cpf) (conflict "Já existe um usuario com este cpf!")
  let email ← orFail (data.email.join.filter fun email => email ≠ "")
    (badRequest "Informe o e-mail.")
  failIf (db.emailEmUso email none) (conflict emailEmUsoTexto)
  let igrejaPedida ← db.igrejaDaInscricao data.requestedChurchId
  let cpf ← orFail data.cpf.join (internalServerError "Internal Server Error")
  let fullName ← orFail data.fullName (internalServerError "Internal Server Error")
  let nova : Pessoa :=
    { id := db.nextId
      role := Role.user
      email := email
      cpf := cpf
      password := (data.password.map hash).getD senhaPadrao
      fullName := fullName
      sensiveis := ⟨none, none, none⟩
      sensitiveConsentAt := none
      memberChurchId := none
      requestedChurchId := igrejaPedida
      otherChurchName :=
        if igrejaPedida.isSome then none
        else (data.otherChurchName.map trim).filter fun nome =>
          nome ≠ ""
      cadastro := data.corpo }
  pure { db with
    pessoas := db.pessoas ++ [aplicarConsentimento data agora nova]
    nextId := db.nextId + 1 }

/-! ### Permissions -/

/-- `assertDevAccountIsUntouchable`. -/
def assertDevAccountIsUntouchable (targetRole : Int) (requester : Option TenantRequester) :
    Except Failure Unit :=
  failIf (isDevRole (some targetRole) && !isDevRole (requester.map TenantRequester.role))
    naoPodeAlterar

/-- `alcancaComoAdminDaIgreja`. -/
def alcancaComoAdminDaIgreja (requester : Option TenantRequester) (targetId : Id) : Bool :=
  db.noEscopo requester [Role.admin] targetId

/-- `alcancaComoAdminDeEvento`. -/
def alcancaComoAdminDeEvento (requesterId targetId : Id) : Bool :=
  let churchIds := db.alcanceDoAdminDeEvento requesterId
  !churchIds.isEmpty && (db.pessoa? targetId).any (db.pessoaDasIgrejas churchIds)

/-- `assertUserInScope`. -/
def assertUserInScope (requester : Option TenantRequester) (targetId : Id) (roles : List Int) :
    Except Failure Unit :=
  failIf (!db.noEscopo requester roles targetId) (forbidden "Este usuário é de outra igreja")

/-- `assertAdministraTodasAsIgrejasDe`. -/
def assertAdministraTodasAsIgrejasDe (requester : Option TenantRequester) (targetId : Id) :
    Except Failure Unit :=
  failIf ((db.vinculosDe targetId).any fun v =>
      v.churchId ∉ churchIdsComPerfil requester [Role.admin])
    (forbidden ("Esta pessoa tem acesso ao painel de outra igreja: só quem administra " ++
      "todas as igrejas dela troca o e-mail ou o CPF."))

/-- `assertLiderSegueAdmin`: the leader of a church does not lose the admin of it. -/
def assertLiderSegueAdmin (targetId : Id) (atuais final : List VinculoDeIgreja) :
    Except Failure Unit :=
  let eraAdmin := (atuais.filter fun v => v.role = Role.admin).map VinculoDeIgreja.churchId
  let segueAdmin := (final.filter fun v => v.role = Role.admin).map VinculoDeIgreja.churchId
  let perdidas := eraAdmin.filter fun churchId => churchId ∉ segueAdmin
  match db.igrejas.find? fun igreja =>
      igreja.id ∈ perdidas && igreja.spiritualLeaderId = some targetId with
  | none => pure ()
  | some liderada =>
      throw (conflict ("É o líder espiritual de " ++ liderada.name ++
        ": troque o líder em Igrejas antes de tirar o admin dele nessa igreja"))

/-- `resolveVinculos`: the list that replaces the links of a person. -/
def resolveVinculos (requester : Option TenantRequester) (targetId : Id)
    (pedidos : Option (List VinculoDeIgreja)) : Except Failure (List VinculoDeIgreja) := do
  let limpos := pedidos.getD []
  failIf (limpos.any fun v => v.role ∉ Role.churchRoles)
    (badRequest "Só admin e tesouraria são perfis de igreja")
  let igrejas := limpos.map VinculoDeIgreja.churchId
  failIf (¬ igrejas.Nodup) (badRequest "Cada igreja aceita um perfil só por pessoa")
  failIf (igrejas.any fun id => (db.igreja? id).isNone) (badRequest "Igreja não encontrada")
  let atuais := db.vinculosDe targetId
  if isSuperAdmin requester then
    db.assertLiderSegueAdmin targetId atuais limpos
    pure limpos
  else
    let minhas := churchIdsComPerfil requester [Role.admin]
    failIf (minhas = []) (forbidden "Você não administra nenhuma igreja para dar permissões")
    failIf (igrejas.any fun id => id ∉ minhas)
      (forbidden "Você só dá permissão nas igrejas que administra")
    let final := (atuais.filter fun v => v.churchId ∉ minhas) ++ limpos
    db.assertLiderSegueAdmin targetId atuais final
    pure final

/-- The role of a body, asked by a person with the panel. -/
def conferirPerfilPedido (requester : Option TenantRequester) (role : Option (Option Int)) :
    Except Failure Unit :=
  match role with
  | none => pure ()
  | some role => do
      failIf (role.all fun role => role ∉ [Role.dev, Role.superAdmin, Role.user])
        (badRequest "Admin e tesouraria são definidos por igreja, em churchRoles")
      failIf (role = some Role.superAdmin && !isSuperAdmin requester)
        (forbidden "Somente o super admin concede o perfil de super admin")
      failIf (role = some Role.dev && !isDevRole (requester.map TenantRequester.role))
        (forbidden "Apenas o perfil Dev pode conceder o acesso Dev")

/-! ### Editing -/

/-- The person is reached only through the event the requester is an admin of. -/
def comoAdminDeEvento (requesterId id : Id) : Bool :=
  let requester := db.tenant? requesterId
  requesterId ≠ id && !isSuperAdmin requester &&
    !(isAdminRole (requester.map TenantRequester.role) &&
      db.alcancaComoAdminDaIgreja requester id) &&
    db.alcancaComoAdminDeEvento requesterId id

/-- What the event admin may not touch. -/
def conferirAdminDeEvento (requesterId id : Id) (data : UserDTO) (atual : Pessoa) :
    Except Failure Unit :=
  if db.comoAdminDeEvento requesterId id then do
    failIf (!(db.vinculosDe id).isEmpty || atual.role ∈ Role.superAdminRoles) naoPodeAlterar
    failIf (mudaAcesso data atual)
      (forbidden "O e-mail e o CPF só são trocados pelo admin da igreja")
  else pure ()

/-- What a church admin may not touch. -/
def conferirAdminDaIgreja (requesterId id : Id) (data : UserDTO) (atual : Pessoa) :
    Except Failure Unit :=
  let requester := db.tenant? requesterId
  if isSuperAdmin requester then pure ()
  else do
    failIf (atual.role = Role.superAdmin) naoPodeAlterar
    db.assertUserInScope requester id [Role.admin]
    if requesterId ≠ id && mudaAcesso data atual then
      db.assertAdministraTodasAsIgrejasDe requester id
    else pure ()

/-- The restrictions of `update` on who asks: the body that is left, and the links to store. -/
def restringir (requesterId id : Id) (peloPerfil : Bool) (data : UserDTO) (atual : Pessoa) :
    Except Failure (UserDTO × Option (List VinculoDeIgreja)) := do
  let requester := db.tenant? requesterId
  let requesterIsAdmin := isAdminRole (requester.map TenantRequester.role)
  let comoAdminDeEvento := db.comoAdminDeEvento requesterId id
  db.conferirAdminDeEvento requesterId id data atual
  failIf (!requesterIsAdmin && requesterId ≠ id && !comoAdminDeEvento)
    (forbidden "Você só pode editar o seu cadastro")
  failIf (!requesterIsAdmin && !peloPerfil && !comoAdminDeEvento)
    (forbidden "Para editar o seu cadastro, use a tela de perfil")
  assertDevAccountIsUntouchable atual.role requester
  if !requesterIsAdmin || comoAdminDeEvento then
    pure ({ data with role := none, churchRoles := none }, none)
  else
    db.conferirAdminDaIgreja requesterId id data atual
    conferirPerfilPedido requester data.role
    match data.churchRoles with
    | none => pure (data, none)
    | some pedidos => do
        let vinculos ← db.resolveVinculos requester id pedidos
        pure (data, some vinculos)

/-- The columns of `users` that an edit writes. -/
def editarPessoa (data : UserDTO) (agora : Instant) (atual : Pessoa) : Pessoa :=
  let pessoa := aplicarConsentimento data agora atual
  { pessoa with
    email := data.email.join.getD atual.email
    cpf := data.cpf.join.getD atual.cpf
    role := data.role.join.getD atual.role
    fullName := data.fullName.getD atual.fullName
    cadastro := sobrepor atual.cadastro data.corpo }

/-- The links of a person replaced by a list. -/
def trocarVinculos (id : Id) (vinculos : Option (List VinculoDeIgreja)) : Painel :=
  match vinculos with
  | none => db
  | some vinculos =>
      { db with
        churchRoles := (db.churchRoles.filter fun v => v.userId ≠ id) ++
          vinculos.map fun v => ⟨id, v.churchId, v.role⟩ }

/-- A null in a column that has to have a value, or a CPF of another person. -/
def recusadoNoBanco (id : Id) (data : UserDTO) : Bool :=
  data.email = some none || data.cpf = some none || data.role = some none ||
    db.pessoas.any fun p => some (some p.cpf) = data.cpf && p.id ≠ id

/-- The transaction of `update`. -/
def gravarEdicao (id : Id) (data : UserDTO) (vinculos : Option (List VinculoDeIgreja))
    (agora : Instant) : Painel :=
  let editado :=
    ({ db with
      pessoas := updateKey Pessoa.id id (editarPessoa data agora) db.pessoas }).trocarVinculos
        id vinculos
  { editado with pessoas := updateKey Pessoa.id id editado.comPerfilEfetivo editado.pessoas }

/-- `update`. -/
def updateUser (id : Id) (data : UserDTO) (requesterId : Option Id) (peloPerfil : Bool)
    (agora : Instant) : Except Failure Painel := do
  let atual ← orFail (db.pessoa? id) (notFound "User does not exists!")
  let (data, vinculos) ← match requesterId with
    | none => pure (data, none)
    | some requesterId => db.restringir requesterId id peloPerfil data atual
  failIf (data.email.join.any fun email =>
      email ≠ atual.email && db.emailEmUso email (some id))
    (conflict emailEmUsoTexto)
  failIf (db.recusadoNoBanco id data) (internalServerError "Internal Server Error")
  pure (db.gravarEdicao id data vinculos agora)

/-- `updateMe`: what it leaves, and its answer. -/
def updateMe (compara : String → String → Bool) (userId : Id) (dto : UpdateMeDto)
    (agora : Instant) : Painel × Except Failure Unit :=
  match db.pessoa? userId with
  | none => (db, .error (notFound "Usuário não encontrado"))
  | some atual =>
      if dto.dados.cpf.any fun cpf => cpf ≠ some atual.cpf then
        (db, .error (forbidden ("O CPF é a sua identificação de acesso e não pode ser alterado " ++
          "por aqui. Fale com a organização.")))
      else
        let dados :=
          { dto.dados with cpf := none, role := none, churchRoles := none, password := none }
        let trocaEmail := (dados.email.join.map trim).any fun email =>
          email ≠ "" && toLowerCase email ≠ toLowerCase (trim atual.email)
        let gravar := fun (db : Painel) =>
          match db.updateUser userId dados (some userId) true agora with
          | .ok depois => (depois, .ok ())
          | .error e => (db, .error e)
        if !trocaEmail then gravar db
        else
          match dto.currentPassword.filter fun senha => senha ≠ "" with
          | none =>
              (db, .error (badRequest "Para trocar o e-mail, confirme a sua senha atual"))
          | some senha =>
              let (registro, resposta) := conferirSenhaAtual compara agora
                (db.errosDeSenhaAtual userId) (some senha) atual.password
              let conferido := { db with
                errosDeSenhaAtual := fun id =>
                  if id = userId then registro else db.errosDeSenhaAtual id }
              match resposta with
              | .ok _ => gravar conferido
              | .error e => (conferido, .error e)

/-! ### In bulk -/

/-- What a bulk edit asks of one person: the links the requester manages, with the one of the church
changed. -/
def vinculosEmMassa (todas : Bool) (minhas : List Id) (dto : PermissoesEmMassaDto)
    (vinculos : List VinculoDeIgreja) : List VinculoDeIgreja :=
  ((vinculos.filter fun v => todas || v.churchId ∈ minhas).filter fun v =>
    v.churchId ≠ dto.churchId) ++ (dto.role.map fun role => ⟨dto.churchId, role⟩).toList

/-- One person of a bulk edit: a refusal leaves the record as it was.  `lido` is the panel as the
call read it. -/
def permissaoDeUma (lido : Painel) (requesterId : Id) (dto : PermissoesEmMassaDto)
    (agora : Instant) (db : Painel) (id : Id) : Painel :=
  let requester := lido.tenant? requesterId
  match lido.pessoa? id with
  | none => db
  | some pessoa =>
      if id = requesterId then db
      else if pessoa.role = Role.superAdmin ∨ pessoa.role = Role.dev then db
      else
        let vinculos := vinculosEmMassa (isSuperAdmin requester)
          (churchIdsComPerfil requester [Role.admin]) dto (lido.vinculosDe id)
        match db.updateUser id { UserDTO.vazio with churchRoles := some (some vinculos) }
            (some requesterId) false agora with
        | .ok depois => depois
        | .error _ => db

/-- `atualizarPermissoesEmMassa`. -/
def atualizarPermissoesEmMassa (requesterId : Id) (dto : PermissoesEmMassaDto) (agora : Instant) :
    Except Failure Painel := do
  let requester := db.tenant? requesterId
  failIf (!isAdminRole (some (perfilEfetivo requester))) (forbidden "Só admin altera permissões")
  failIf (db.igreja? dto.churchId).isNone (badRequest "Igreja não encontrada")
  failIf (!isSuperAdmin requester && dto.churchId ∉ churchIdsComPerfil requester [Role.admin])
    (forbidden "Você só dá permissão nas igrejas que administra")
  pure (dto.userIds.eraseDups.foldl (permissaoDeUma db requesterId dto agora) db)

end Painel

end IccvBackend
