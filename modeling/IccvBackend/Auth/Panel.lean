/-
Module: IccvBackend.Auth.Panel
Purpose: The operations on churches and records as one system, in any order.
Trusted boundary: human-reviewed spec
Main exports: Painel.Acao, Painel.agir
-/
import IccvBackend.Church.Service
import IccvBackend.User.Service

namespace IccvBackend

/-- The hashing and the comparison of passwords. -/
structure Bcrypt where
  hash : String → String
  compara : String → String → Bool

namespace Painel

inductive Acao where
  | createChurch (dto : CreateChurchDto)
  | updateChurch (id : Id) (dto : CreateChurchDto)
  | removeChurch (id : Id)
  | createUser (data : UserDTO) (agora : Instant)
  | updateUser (id : Id) (data : UserDTO) (requesterId : Id) (agora : Instant)
  | updateMe (userId : Id) (dto : UpdateMeDto) (agora : Instant)
  | atualizarPermissoesEmMassa (requesterId : Id) (dto : PermissoesEmMassaDto) (agora : Instant)

/-- What an operation leaves: an exception leaves the tables as they were. -/
def ouComoEstava (db : Painel) (resultado : Except Failure Painel) : Painel :=
  match resultado with
  | .ok depois => depois
  | .error _ => db

/-- One operation of a run. -/
def agir (bcrypt : Bcrypt) (db : Painel) : Acao → Painel
  | .createChurch dto => db.ouComoEstava (db.createChurch dto)
  | .updateChurch id dto => db.ouComoEstava (db.updateChurch id dto)
  | .removeChurch id => db.ouComoEstava (db.removeChurch id)
  | .createUser data agora => db.ouComoEstava (db.createUser bcrypt.hash data agora)
  | .updateUser id data requesterId agora =>
      db.ouComoEstava (db.updateUser id data (some requesterId) false agora)
  | .updateMe userId dto agora => (db.updateMe bcrypt.compara userId dto agora).1
  | .atualizarPermissoesEmMassa requesterId dto agora =>
      db.ouComoEstava (db.atualizarPermissoesEmMassa requesterId dto agora)

end Painel

end IccvBackend
