/-
Module: IccvBackend.Lib.Transitions
Purpose: Runs of a total step function, with the rules that carry an invariant, a guarded
  invariant or a history variable along a run.
Trusted boundary: none
Main exports: runFrom, Always, EachStep, always_of_eachStep, always_iff_eachStep,
  always_iff_eachStep_of_invariant, eachStep_of_always, Always.eachStep, eachStep_iff_of_invariant,
  withHistory
-/
import Mathlib.Data.List.Basic

namespace IccvBackend.Lib

/-!
A system is a function `step : σ → α → σ`.  The action `α` carries every choice the environment
makes (who acts next, what an outside party answers), so an interleaving of several parties is a
list of actions and a statement about all interleavings is a statement about all lists.

`Always` and `EachStep` are defined by recursion on the run, from its first action: an invariant
proof is then one induction, done here once.
-/

variable {σ α η : Type*} {step : σ → α → σ}

/-- The state after a list of actions. -/
def runFrom (step : σ → α → σ) (s : σ) (actions : List α) : σ :=
  actions.foldl step s

@[simp] theorem runFrom_nil (s : σ) : runFrom step s [] = s := rfl

@[simp] theorem runFrom_cons (s : σ) (a : α) (actions : List α) :
    runFrom step s (a :: actions) = runFrom step (step s a) actions := rfl

/-- `P` holds in every state of the run, the first and the last included. -/
def Always (step : σ → α → σ) (P : σ → Prop) : σ → List α → Prop
  | s, [] => P s
  | s, a :: actions => P s ∧ Always step P (step s a) actions

/-- `Q` holds of every step of the run: of the state before it and the action taken there. -/
def EachStep (step : σ → α → σ) (Q : σ → α → Prop) : σ → List α → Prop
  | _, [] => True
  | s, a :: actions => Q s a ∧ EachStep step Q (step s a) actions

instance decidableEachStep {Q : σ → α → Prop} [∀ s a, Decidable (Q s a)] :
    ∀ (s : σ) (actions : List α), Decidable (EachStep step Q s actions)
  | _, [] => isTrue trivial
  | s, a :: actions =>
      have : Decidable (EachStep step Q (step s a) actions) := decidableEachStep (step s a) actions
      inferInstanceAs (Decidable (Q s a ∧ EachStep step Q (step s a) actions))

@[simp] theorem always_nil {P : σ → Prop} {s : σ} : Always step P s [] ↔ P s := Iff.rfl

@[simp] theorem always_cons {P : σ → Prop} {s : σ} {a : α} {actions : List α} :
    Always step P s (a :: actions) ↔ P s ∧ Always step P (step s a) actions := Iff.rfl

@[simp] theorem eachStep_nil {Q : σ → α → Prop} {s : σ} : EachStep step Q s [] := trivial

@[simp] theorem eachStep_cons {Q : σ → α → Prop} {s : σ} {a : α} {actions : List α} :
    EachStep step Q s (a :: actions) ↔ Q s a ∧ EachStep step Q (step s a) actions := Iff.rfl

theorem Always.head {P : σ → Prop} {s : σ} {actions : List α}
    (always : Always step P s actions) : P s := by
  cases actions with
  | nil => exact always
  | cons a actions => exact always.1

theorem Always.last {P : σ → Prop} {s : σ} {actions : List α}
    (always : Always step P s actions) : P (runFrom step s actions) := by
  induction actions generalizing s with
  | nil => exact always
  | cons a actions ih => exact ih always.2

theorem Always.mono {P Q : σ → Prop} (imp : ∀ s, P s → Q s) {s : σ} {actions : List α}
    (always : Always step P s actions) : Always step Q s actions := by
  induction actions generalizing s with
  | nil => exact imp s always
  | cons a actions ih => exact ⟨imp s always.1, ih always.2⟩

theorem EachStep.mono {P Q : σ → α → Prop} (imp : ∀ s a, P s a → Q s a) {s : σ}
    {actions : List α} (each : EachStep step P s actions) : EachStep step Q s actions := by
  induction actions generalizing s with
  | nil => trivial
  | cons a actions ih => exact ⟨imp s a each.1, ih each.2⟩

theorem eachStep_of_forall {Q : σ → α → Prop} (all : ∀ s a, Q s a) {s : σ} {actions : List α} :
    EachStep step Q s actions := by
  induction actions generalizing s with
  | nil => trivial
  | cons a actions ih => exact ⟨all s a, ih⟩

/-- A condition on the actions alone. -/
theorem eachStep_of_mem {P : α → Prop} {s : σ} {actions : List α} (all : ∀ a ∈ actions, P a) :
    EachStep step (fun _ a => P a) s actions := by
  induction actions generalizing s with
  | nil => trivial
  | cons a actions ih =>
      exact ⟨all a List.mem_cons_self, ih fun b mem => all b (List.mem_cons_of_mem a mem)⟩

theorem EachStep.and {P Q : σ → α → Prop} {s : σ} {actions : List α}
    (left : EachStep step P s actions) (right : EachStep step Q s actions) :
    EachStep step (fun s a => P s a ∧ Q s a) s actions := by
  induction actions generalizing s with
  | nil => trivial
  | cons a actions ih => exact ⟨⟨left.1, right.1⟩, ih left.2 right.2⟩

theorem eachStep_append {Q : σ → α → Prop} {s : σ} {first second : List α} :
    EachStep step Q s (first ++ second) ↔
      EachStep step Q s first ∧ EachStep step Q (runFrom step s first) second := by
  induction first generalizing s with
  | nil => simp
  | cons a first ih => simp only [List.cons_append, eachStep_cons, runFrom_cons, ih, and_assoc]

/-- The guarded invariant rule: if a guarded step keeps `P`, a run whose steps all meet the guard
keeps `P` in every state. -/
theorem always_of_eachStep {P : σ → Prop} {G : σ → α → Prop}
    (keep : ∀ s a, P s → G s a → P (step s a)) {s : σ} {actions : List α}
    (start : P s) (guarded : EachStep step G s actions) : Always step P s actions := by
  induction actions generalizing s with
  | nil => exact start
  | cons a actions ih => exact ⟨start, ih (keep s a start guarded.1) guarded.2⟩

/-- The invariant rule without a guard. -/
theorem always_of_step {P : σ → Prop} (keep : ∀ s a, P s → P (step s a)) {s : σ}
    (start : P s) (actions : List α) : Always step P s actions := by
  induction actions generalizing s with
  | nil => exact start
  | cons a actions ih => exact ⟨start, ih (keep s a start)⟩

/-- When a guarded step keeps the invariant `I` and every step that ends in `P` met the guard, the
runs that stay in `P` are the runs whose steps meet the guard. -/
theorem always_iff_eachStep_of_invariant {P I : σ → Prop} {G : σ → α → Prop}
    (imp : ∀ s, I s → P s) (keep : ∀ s a, I s → G s a → I (step s a))
    (need : ∀ s a, I s → P (step s a) → G s a) {s : σ} {actions : List α} (start : I s) :
    Always step P s actions ↔ EachStep step G s actions := by
  induction actions generalizing s with
  | nil => simp [imp s start]
  | cons a actions ih =>
      simp only [always_cons, eachStep_cons]
      constructor
      · rintro ⟨_, rest⟩
        have guard := need s a start rest.head
        exact ⟨guard, (ih (keep s a start guard)).mp rest⟩
      · rintro ⟨guard, rest⟩
        exact ⟨imp s start, (ih (keep s a start guard)).mpr rest⟩

/-- When the guard is exactly what one step needs, it is exactly what a run needs. -/
theorem always_iff_eachStep {P : σ → Prop} {G : σ → α → Prop}
    (exact_step : ∀ s a, P s → (P (step s a) ↔ G s a)) {s : σ} {actions : List α}
    (start : P s) : Always step P s actions ↔ EachStep step G s actions :=
  always_iff_eachStep_of_invariant (fun _ holds => holds)
    (fun s a holds guard => (exact_step s a holds).mpr guard)
    (fun s a holds next => (exact_step s a holds).mp next) start

/-- A fact of single steps that needs an invariant of the states they start from. -/
theorem eachStep_of_always {P : σ → Prop} {G Q : σ → α → Prop}
    (derive : ∀ s a, P s → G s a → Q s a) {s : σ} {actions : List α}
    (always : Always step P s actions) (guarded : EachStep step G s actions) :
    EachStep step Q s actions := by
  induction actions generalizing s with
  | nil => trivial
  | cons a actions ih => exact ⟨derive s a always.1 guarded.1, ih always.2 guarded.2⟩

/-- What an invariant says of every step from its states. -/
theorem Always.eachStep {P : σ → Prop} {Q : σ → α → Prop} (derive : ∀ s a, P s → Q s a) {s : σ}
    {actions : List α} (always : Always step P s actions) : EachStep step Q s actions := by
  induction actions generalizing s with
  | nil => trivial
  | cons a actions ih => exact ⟨derive s a always.1, ih always.2⟩

/-- Two conditions on steps that agree under an invariant, when a step that meets the second one
keeps it, agree on runs. -/
theorem eachStep_iff_of_invariant {I : σ → Prop} {P G : σ → α → Prop}
    (agree : ∀ s a, I s → (P s a ↔ G s a)) (keep : ∀ s a, I s → G s a → I (step s a)) {s : σ}
    {actions : List α} (start : I s) : EachStep step P s actions ↔ EachStep step G s actions := by
  induction actions generalizing s with
  | nil => exact Iff.rfl
  | cons a actions ih =>
      simp only [eachStep_cons, agree s a start]
      exact and_congr_right fun guard => ih (keep s a start guard)

/-! ### History variables

A history variable is a value computed along the run that no step reads.  It names facts of the
past (the price a row was created with) that the state no longer holds. -/

/-- A step of the state together with its history: `record` sees the history, the state before the
step, the action and the state after it. -/
def withHistory (step : σ → α → σ) (record : η → σ → α → σ → η) (sh : σ × η) (a : α) : σ × η :=
  (step sh.1 a, record sh.2 sh.1 a (step sh.1 a))

/-- The history does not disturb the run. -/
theorem runFrom_withHistory (step : σ → α → σ) (record : η → σ → α → σ → η) (sh : σ × η)
    (actions : List α) :
    (runFrom (withHistory step record) sh actions).1 = runFrom step sh.1 actions := by
  induction actions generalizing sh with
  | nil => rfl
  | cons a actions ih => exact ih (withHistory step record sh a)

/-- A condition on the states alone is one on the states with their history. -/
theorem eachStep_withHistory {step : σ → α → σ} {record : η → σ → α → σ → η}
    {G : σ → α → Prop} (sh : σ × η) {actions : List α} :
    EachStep (withHistory step record) (fun sh a => G sh.1 a) sh actions ↔
      EachStep step G sh.1 actions := by
  induction actions generalizing sh with
  | nil => exact Iff.rfl
  | cons a actions ih => exact and_congr_right fun _ => ih _

/-- A law of the states alone holds along a run with its history as it does without. -/
theorem always_withHistory {step : σ → α → σ} {record : η → σ → α → σ → η} {P : σ → Prop}
    (sh : σ × η) {actions : List α} :
    Always (withHistory step record) (fun sh => P sh.1) sh actions ↔
      Always step P sh.1 actions := by
  induction actions generalizing sh with
  | nil => exact Iff.rfl
  | cons a actions ih => exact and_congr_right fun _ => ih _

end IccvBackend.Lib
