/-
Module: IccvBackend.Proofs.Documents
Purpose: The CPF stays the document of one person, through the operations on churches and records.
Trusted boundary: none
Main exports: Painel.CpfUnico, cpfUnico_guardado
-/
import IccvBackend.Proofs.Profiles

namespace IccvBackend

open Lib

/-- The rows that carry a CPF are of one person: the column is unique. -/
def Painel.CpfUnico (db : Painel) : Prop :=
  ∀ p ∈ db.pessoas, ∀ q ∈ db.pessoas, p.cpf = q.cpf → p.id = q.id

section Documentos

variable {db depois : Painel} {id requesterId : Id} {data : UserDTO} {hash : String → String}
  {peloPerfil : Bool} {agora : Instant} {vinculos : Option (List VinculoDeIgreja)}

/-- An operation that writes neither an id nor a CPF. -/
theorem cpfUnico_map (unico : db.CpfUnico) {f : Pessoa → Pessoa}
    (same : ∀ p, (f p).id = p.id ∧ (f p).cpf = p.cpf)
    (pessoas : depois.pessoas = db.pessoas.map f) : depois.CpfUnico := by
  intro p mem q mem' cpf
  rw [pessoas] at mem mem'
  obtain ⟨old, old_mem, rfl⟩ := List.mem_map.mp mem
  obtain ⟨old', old_mem', rfl⟩ := List.mem_map.mp mem'
  rw [(same old).2, (same old').2] at cpf
  rw [(same old).1, (same old').1]
  exact unico old old_mem old' old_mem' cpf

/-- A church saved with its leader writes the profiles of its people only. -/
theorem cpfUnico_salvarIgreja {salva : Painel} {lider : Option Id} (unico : db.CpfUnico)
    (pessoas : salva.pessoas = db.pessoas) :
    ((salva.vincularLider id lider).recalcularPerfis id).CpfUnico := by
  have same : (salva.vincularLider id lider).pessoas = db.pessoas :=
    (pessoas_vincularLider salva id lider).1.trans pessoas
  have unico : (salva.vincularLider id lider).CpfUnico := by
    unfold Painel.CpfUnico
    rw [same]
    exact unico
  exact cpfUnico_map unico (fun p => by split <;> exact ⟨rfl, rfl⟩) rfl

theorem cpfUnico_createChurch {dto : CreateChurchDto} (unico : db.CpfUnico)
    (ok : db.createChurch dto = .ok depois) : depois.CpfUnico := by
  simp only [Painel.createChurch, bind_eq_ok_iff, pure_eq_ok_iff] at ok
  obtain ⟨_, _, _, _, _, _, rfl⟩ := ok
  exact cpfUnico_salvarIgreja unico rfl

theorem cpfUnico_updateChurch {dto : CreateChurchDto} (unico : db.CpfUnico)
    (ok : db.updateChurch id dto = .ok depois) : depois.CpfUnico := by
  simp only [Painel.updateChurch, bind_eq_ok_iff, pure_eq_ok_iff] at ok
  obtain ⟨_, _, _, _, _, _, _, _, rfl⟩ := ok
  exact cpfUnico_salvarIgreja unico rfl

theorem cpfUnico_removeChurch (unico : db.CpfUnico) (ok : db.removeChurch id = .ok depois) :
    depois.CpfUnico := by
  simp only [Painel.removeChurch, bind_eq_ok_iff, pure_eq_ok_iff] at ok
  obtain ⟨_, _, _, _, rfl⟩ := ok
  have same : ∀ p, (Painel.semIgreja id p).id = p.id ∧ (Painel.semIgreja id p).cpf = p.cpf :=
    fun _ => ⟨rfl, rfl⟩
  exact cpfUnico_map unico same rfl

theorem aplicarConsentimento_cpf (data : UserDTO) (agora : Instant) (p : Pessoa) :
    (aplicarConsentimento data agora p).cpf = p.cpf := by
  unfold aplicarConsentimento
  dsimp only
  split
  · rfl
  · rfl
  · split <;> rfl

/-- A person registers with a CPF that nobody has. -/
theorem cpfUnico_createUser (unico : db.CpfUnico)
    (ok : db.createUser hash data agora = .ok depois) :
    depois.CpfUnico := by
  simp only [Painel.createUser, bind_eq_ok_iff, pure_eq_ok_iff, failIf_eq_ok_iff, orFail_eq_ok_iff,
    exists_const, Bool.not_eq_true] at ok
  obtain ⟨livre, _, _, _, _, _, cpf, came, _, _, rfl⟩ := ok
  have novo : ∀ p ∈ db.pessoas, p.cpf ≠ cpf := by
    rintro p mem rfl
    have asked : data.cpf = some (some p.cpf) := by
      cases given : data.cpf with
      | none => simp [given] at came
      | some inner => simpa [given] using came
    simp only [Painel.cpfEmUso, asked, List.any_eq_false, decide_eq_true_eq] at livre
    exact livre p mem rfl
  intro p mem q mem' same
  rcases List.mem_append.mp mem with old | new <;> rcases List.mem_append.mp mem' with old' | new'
  · exact unico p old q old' same
  · obtain rfl := List.mem_singleton.mp new'
    exact absurd (same.trans (aplicarConsentimento_cpf _ _ _)) (novo p old)
  · obtain rfl := List.mem_singleton.mp new
    exact absurd (same.symm.trans (aplicarConsentimento_cpf _ _ _)) (novo q old')
  · rw [List.mem_singleton.mp new, List.mem_singleton.mp new']

/-- The unique index refuses the CPF of another person. -/
theorem cpfUnico_gravarEdicao (unico : db.CpfUnico) (aceito : db.recusadoNoBanco id data = false) :
    (db.gravarEdicao id data vinculos agora).CpfUnico := by
  have livre : ∀ q ∈ db.pessoas, q.id ≠ id → data.cpf ≠ some (some q.cpf) := by
    intro q mem other asked
    simp only [Painel.recusadoNoBanco, Bool.or_eq_false_iff, List.any_eq_false, Bool.and_eq_true,
      decide_eq_true_eq, not_and, not_not] at aceito
    exact other (aceito.2 q mem asked.symm)
  -- the CPF that is written, against the one of another person
  have editado : ∀ old ∈ db.pessoas, old.id = id → ∀ q ∈ db.pessoas, q.id ≠ id →
      data.cpf.join.getD old.cpf ≠ q.cpf := by
    intro old mem here q mem' other same
    rcases came : data.cpf with _ | _ | cpf
    · exact other ((unico old mem q mem' (by simpa [came] using same)).symm.trans here)
    · exact other ((unico old mem q mem' (by simpa [came] using same)).symm.trans here)
    · refine livre q mem' other ?_
      simpa [came] using same
  have written : ∀ old, ((db.trocarVinculos id vinculos).comPerfilEfetivo
      (Painel.editarPessoa data agora old)).cpf = data.cpf.join.getD old.cpf := fun _ => rfl
  intro p mem q mem' same
  rcases mem_gravarEdicao.mp mem with ⟨old, old_mem, here, rfl⟩ | ⟨old_mem, other⟩ <;>
    rcases mem_gravarEdicao.mp mem' with ⟨old', old_mem', here', rfl⟩ | ⟨old_mem', other'⟩
  · exact ((editarPessoa_id data agora old).trans here).trans
      ((editarPessoa_id data agora old').trans here').symm
  · exact absurd same (editado old old_mem here q old_mem' other')
  · exact absurd same.symm (editado old' old_mem' here' p old_mem other)
  · exact unico p old_mem q old_mem' same

theorem cpfUnico_updateUser (unico : db.CpfUnico)
    (ok : db.updateUser id data (some requesterId) peloPerfil agora = .ok depois) :
    depois.CpfUnico := by
  obtain ⟨_, _, _, _, _, aceito, rfl⟩ := updateUser_ok ok
  exact cpfUnico_gravarEdicao unico aceito

end Documentos

theorem cpfUnico_guardado : Painel.Guardado Painel.CpfUnico where
  createChurch := cpfUnico_createChurch
  updateChurch := cpfUnico_updateChurch
  removeChurch := cpfUnico_removeChurch
  createUser := cpfUnico_createUser
  updateUser := cpfUnico_updateUser
  erros _ unico := unico

end IccvBackend
