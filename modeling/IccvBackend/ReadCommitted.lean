/-
Module: IccvBackend.ReadCommitted
Purpose: The server with every payment notification cut between its read and its writes.
Trusted boundary: human-reviewed spec
Main exports: Servidor, Servidor.passo, Servidor.avisoInteiro, Servidor.mundo_run
-/
import IccvBackend.Lib.Transitions
import IccvBackend.System

namespace IccvBackend

open Lib

/-!
A transaction that writes the status of payments it has read is serializable, but for the one of
`updatePaymentWebhook`: at the default level of the database, others commit between its read and
its writes.  Here a notification takes two steps.  Every other step is that of `System`.
-/

/-- The server, and the notifications that have read their rows and not written yet. -/
structure Servidor where
  mundo : World
  avisos : List AvisoLido

namespace Servidor

/-- The server over a database, with nothing in flight. -/
def aberto (db : Database) : Servidor := ⟨⟨db, []⟩, []⟩

/-- What can happen next. -/
inductive Acao where
  /-- a step of the server; a payment notification only reads -/
  | agir (action : Action)
  | gravarAviso (k : Nat)
  /-- the transaction of a notification rolls back -/
  | largarAviso (k : Nat)

/-- A notification reads: it waits to write, or is over. -/
def lerAviso (s : Servidor) (notice : PaymentNotice) : Servidor :=
  match IccvBackend.lerAviso s.mundo.db notice with
  | .ok (some lido) => { s with avisos := s.avisos ++ [lido] }
  | _ => s

/-- A notification writes what it decided, on the database there is now. -/
def gravarAviso (s : Servidor) (k : Nat) : Servidor :=
  match s.avisos[k]? with
  | some lido =>
      { mundo := { s.mundo with db := IccvBackend.gravarAviso s.mundo.db lido }
        avisos := s.avisos.eraseIdx k }
  | none => s

/-- One step. -/
def passo (amb : Ambiente) (s : Servidor) : Acao → Servidor
  | .agir (.updatePaymentWebhook notice) => s.lerAviso notice
  | .agir action => { s with mundo := step amb s.mundo action }
  | .gravarAviso k => s.gravarAviso k
  | .largarAviso k => { s with avisos := s.avisos.eraseIdx k }

theorem passo_agir {amb : Ambiente} {s : Servidor} {action : Action}
    (other : ∀ notice, action ≠ .updatePaymentWebhook notice) :
    s.passo amb (.agir action) = { s with mundo := step amb s.mundo action } := by
  cases action with
  | updatePaymentWebhook notice => exact absurd rfl (other notice)
  | _ => rfl

/-- A notification whose writes come right after its read is the step of `System`. -/
theorem avisoInteiro (amb : Ambiente) (s : Servidor) (notice : PaymentNotice) :
    runFrom (passo amb) s [.agir (.updatePaymentWebhook notice), .gravarAviso s.avisos.length] =
      { s with mundo := step amb s.mundo (.updatePaymentWebhook notice) } := by
  simp only [runFrom_cons, runFrom_nil, passo, lerAviso, gravarAviso, step, updatePaymentWebhook]
  cases read : IccvBackend.lerAviso s.mundo.db notice with
  | error failure =>
      simp only [List.getElem?_eq_none (le_refl _)]
      rfl
  | ok aviso =>
      cases aviso with
      | none =>
          simp only [List.getElem?_eq_none (le_refl _)]
          rfl
      | some lido =>
          simp only [List.getElem?_concat_length, List.eraseIdx_append_of_length_le (le_refl _),
            Nat.sub_self, List.eraseIdx_cons_zero, List.append_nil]
          rfl

/-- Every run of `System` is one of this server. -/
theorem mundo_run (amb : Ambiente) (s : Servidor) (actions : List Action) :
    ∃ acoes, runFrom (passo amb) s acoes =
      { s with mundo := runFrom (step amb) s.mundo actions } := by
  induction actions generalizing s with
  | nil => exact ⟨[], rfl⟩
  | cons action actions ih =>
      -- the step alone, or the two halves of a notification
      have first : ∃ acoes, runFrom (passo amb) s acoes =
          { s with mundo := step amb s.mundo action } := by
        by_cases notification : ∃ notice, action = .updatePaymentWebhook notice
        · obtain ⟨notice, rfl⟩ := notification
          exact ⟨_, avisoInteiro amb s notice⟩
        · exact ⟨[.agir action], passo_agir (not_exists.mp notification)⟩
      obtain ⟨before, reached⟩ := first
      obtain ⟨after, rest⟩ := ih { s with mundo := step amb s.mundo action }
      refine ⟨before ++ after, ?_⟩
      calc runFrom (passo amb) s (before ++ after)
          = runFrom (passo amb) (runFrom (passo amb) s before) after := List.foldl_append
        _ = { s with mundo := runFrom (step amb) s.mundo (action :: actions) } := by
          rw [reached, rest]
          rfl

end Servidor

end IccvBackend
