/-
Module: IccvBackend.Lib.Turns
Purpose: Tasks that take turns in the order they came: one begins when all before it are settled.
Trusted boundary: none
Main exports: Stage, InTurn, InTurn.enqueue, InTurn.start, InTurn.move, InTurn.before, InTurn.unique
-/
import IccvBackend.Lib.Tasks

namespace IccvBackend.Lib

/-- Where a task is: not begun, begun, or over. -/
inductive Stage where
  | waiting
  | running
  | settled
deriving Repr, DecidableEq

variable {τ : Type*} {stage : τ → Stage} {tasks : List τ} {task other : τ} {i j k : Nat}

/-- Whatever has begun finds all before it settled. -/
def InTurn (stage : τ → Stage) (tasks : List τ) : Prop :=
  ∀ (i j : Nat) (a b : τ), i < j → tasks[i]? = some a → tasks[j]? = some b →
    stage b ≠ .waiting → stage a = .settled

theorem inTurn_nil : InTurn stage ([] : List τ) := fun _ _ _ _ _ here => nomatch here

namespace InTurn

theorem before (turn : InTurn stage tasks) (here : tasks[j]? = some other)
    (begun : stage other ≠ .waiting) : ∀ i a, i < j → tasks[i]? = some a → stage a = .settled :=
  fun i a less there => turn i j a other less there here begun

/-- One task at most is running. -/
theorem unique (turn : InTurn stage tasks) (one : tasks[i]? = some task)
    (two : tasks[j]? = some other) (runs : stage task = .running) (runs' : stage other = .running) :
    i = j := by
  rcases Nat.lt_trichotomy i j with less | same | more
  · have ended := turn i j task other less one two (by rw [runs']; nofun)
    rw [runs] at ended
    cases ended
  · exact same
  · have ended := turn j i other task more two one (by rw [runs]; nofun)
    rw [runs'] at ended
    cases ended

theorem enqueue (turn : InTurn stage tasks) (waits : stage task = .waiting) :
    InTurn stage (tasks ++ [task]) := by
  intro i j a b less here there begun
  rcases getElem?_begun there with old | ⟨_, rfl⟩
  · have inside : i < tasks.length := Nat.lt_trans less (List.getElem?_eq_some_iff.mp old).1
    rw [List.getElem?_append_left inside] at here
    exact turn i j a b less here old begun
  · exact absurd waits begun

/-- A task begins where all before it are settled. -/
theorem start (turn : InTurn stage tasks) (found : tasks[k]? = some task)
    (waits : stage task = .waiting)
    (free : ∀ i a, i < k → tasks[i]? = some a → stage a = .settled) (begun : τ) :
    InTurn stage (tasks.set k begun) := by
  intro i j a b less here there left
  rcases getElem?_moved there with ⟨rfl, rfl⟩ | ⟨other, old⟩
  · rcases getElem?_moved here with ⟨rfl, _⟩ | ⟨_, old⟩
    · exact absurd less (Nat.lt_irrefl _)
    · exact free i a less old
  · rcases getElem?_moved here with ⟨rfl, rfl⟩ | ⟨_, was⟩
    · -- nothing after a task that waits has begun
      have settled := turn i j task b less found old left
      rw [waits] at settled
      cases settled
    · exact turn i j a b less was old left

/-- A task that has begun goes on, and stays settled if it was. -/
theorem move (turn : InTurn stage tasks) (found : tasks[k]? = some task)
    (left : stage task ≠ .waiting) {next : τ}
    (kept : stage task = .settled → stage next = .settled) :
    InTurn stage (tasks.set k next) := by
  intro i j a b less here there begun
  rcases getElem?_moved there with ⟨rfl, rfl⟩ | ⟨_, old⟩
  · rcases getElem?_moved here with ⟨rfl, _⟩ | ⟨_, was⟩
    · exact absurd less (Nat.lt_irrefl _)
    · exact turn i j a task less was found left
  · rcases getElem?_moved here with ⟨rfl, rfl⟩ | ⟨_, was⟩
    · exact kept (turn i j task b less found old begun)
    · exact turn i j a b less was old begun

end InTurn

end IccvBackend.Lib
