/-
Module: IccvBackend.Lib.WorkerPool
Purpose: Jobs dealt out in order to workers that take the next one when they are through: each job
  goes to one worker, once, and when every worker rests every job was done.
Trusted boundary: none
Main exports: Worker, WorkerPool, WorkerPool.take, WorkerPool.rest, WorkerPool.finish,
  WorkerPool.Dealt, WorkerPool.Dealt.complete, held_set_perm
-/
import IccvBackend.Lib.Tasks
import Mathlib.Data.List.Perm.Basic

namespace IccvBackend.Lib

/-- A worker, with the job in its hands and what it waits for. -/
inductive Worker (τ : Type*) where
  | idle
  | busy (job : Nat) (token : τ)
  | resting
deriving Repr, DecidableEq

variable {τ β : Type*}

/-- The job in the hands of a worker. -/
def Worker.job : Worker τ → Option Nat
  | .busy job _ => some job
  | _ => none

/-- The next job to deal out, the workers, and the jobs that are done with what each waited for. -/
structure WorkerPool (τ : Type*) where
  next : Nat
  workers : List (Worker τ)
  finished : List (Nat × τ)
deriving Repr, DecidableEq

namespace WorkerPool

variable (pool : WorkerPool τ) {n w : Nat} {token : τ}

/-- Nobody has worked yet. -/
def start (workers : Nat) : WorkerPool τ := ⟨0, List.replicate workers .idle, []⟩

/-- Worker `w` takes the next job. -/
def take (w : Nat) (token : τ) : WorkerPool τ :=
  { pool with
    next := pool.next + 1
    workers := pool.workers.set w (.busy pool.next token) }

/-- Worker `w` finds no job left. -/
def rest (w : Nat) : WorkerPool τ := { pool with workers := pool.workers.set w .resting }

/-- Worker `w` is through with the job in its hands. -/
def finish (w job : Nat) (token : τ) : WorkerPool τ :=
  { pool with
    workers := pool.workers.set w .idle
    finished := pool.finished ++ [(job, token)] }

/-- Of `n` jobs, those before `next` are each in one pair of hands or done, once. -/
structure Dealt (n : Nat) (pool : WorkerPool τ) : Prop where
  next_le : pool.next ≤ n
  once : (pool.workers.filterMap Worker.job ++ pool.finished.map Prod.fst).Perm
    (List.range pool.next)
  rested : .resting ∈ pool.workers → pool.next = n

end WorkerPool

/-! ### What a list of tasks holds -/

/-- A task that held nothing takes something. -/
theorem held_set_perm {α : Type*} {holds : α → Option β} {tasks : List α} {i : Nat}
    {before after : α} {value : β} (call : tasks[i]? = some before) (empty : holds before = none)
    (holding : holds after = some value) :
    ((tasks.set i after).filterMap holds).Perm (value :: tasks.filterMap holds) := by
  induction tasks generalizing i with
  | nil => cases call
  | cons first tasks ih =>
      cases i with
      | zero =>
          obtain rfl := Option.some.inj call
          rw [List.set_cons_zero, List.filterMap_cons_some holding, List.filterMap_cons_none empty]
      | succ i =>
          rw [List.set_cons_succ, List.filterMap_cons, List.filterMap_cons]
          cases holds first with
          | none => exact ih call
          | some other => exact ((ih call).cons other).trans (List.Perm.swap value other _)

/-- A task that lets go of what it held. -/
theorem held_let_go_perm {α : Type*} {holds : α → Option β} {tasks : List α} {i : Nat}
    {before after : α} {value : β} (call : tasks[i]? = some before)
    (holding : holds before = some value) (empty : holds after = none) :
    (tasks.filterMap holds).Perm (value :: (tasks.set i after).filterMap holds) := by
  have moved : (tasks.set i after)[i]? = some after := getElem?_moved_self call
  have back := held_set_perm moved empty holding
  obtain ⟨inside, here⟩ := List.getElem?_eq_some_iff.mp call
  rwa [List.set_set, ← here, List.set_getElem_self] at back

/-- A task that holds after what it held before. -/
theorem filterMap_set_of_eq {α : Type*} {holds : α → Option β} {tasks : List α} {i : Nat}
    {before after : α} (call : tasks[i]? = some before) (same : holds after = holds before) :
    (tasks.set i after).filterMap holds = tasks.filterMap holds := by
  induction tasks generalizing i with
  | nil => cases call
  | cons first tasks ih =>
      cases i with
      | zero =>
          obtain rfl := Option.some.inj call
          rw [List.set_cons_zero, List.filterMap_cons, List.filterMap_cons, same]
      | succ i => rw [List.set_cons_succ, List.filterMap_cons, List.filterMap_cons, ih call]

namespace WorkerPool.Dealt

variable {pool : WorkerPool τ} {n w job : Nat} {token : τ}

theorem start (n workers : Nat) : Dealt n (WorkerPool.start workers : WorkerPool τ) where
  next_le := Nat.zero_le n
  once := by
    have nobody : ∀ worker ∈ List.replicate workers (Worker.idle : Worker τ),
        worker.job = none := by
      intro worker mem
      rw [List.eq_of_mem_replicate mem]
      rfl
    simp [WorkerPool.start, List.filterMap_eq_nil_iff.mpr nobody]
  rested mem := nomatch List.eq_of_mem_replicate mem

theorem take (dealt : Dealt n pool) (left : pool.next < n) (free : pool.workers[w]? = some .idle)
    (token : τ) : Dealt n (pool.take w token) where
  next_le := left
  once := by
    have held : ((pool.workers.set w (.busy pool.next token)).filterMap Worker.job).Perm
        (pool.next :: pool.workers.filterMap Worker.job) := held_set_perm free rfl rfl
    show (((pool.workers.set w _).filterMap _) ++ _).Perm (List.range (pool.next + 1))
    rw [List.range_succ]
    calc ((pool.workers.set w (.busy pool.next token)).filterMap Worker.job ++
          pool.finished.map Prod.fst).Perm
          (pool.next :: (pool.workers.filterMap Worker.job ++ pool.finished.map Prod.fst)) :=
        held.append_right _
      _ |>.Perm (pool.next :: List.range pool.next) := dealt.once.cons _
      _ |>.Perm (List.range pool.next ++ [pool.next]) := (List.perm_append_singleton _ _).symm
  rested mem := by
    rcases List.mem_or_eq_of_mem_set mem with old | new
    · exact absurd (dealt.rested old) (Nat.ne_of_lt left)
    · cases new

theorem rest (dealt : Dealt n pool) (none_left : ¬ pool.next < n)
    (free : pool.workers[w]? = some .idle) : Dealt n (pool.rest w) where
  next_le := dealt.next_le
  once := by
    have same : (pool.workers.set w .resting).filterMap Worker.job =
        pool.workers.filterMap Worker.job := filterMap_set_of_eq free rfl
    show (((pool.workers.set w _).filterMap _) ++ _).Perm _
    rw [same]
    exact dealt.once
  rested _ := Nat.le_antisymm dealt.next_le (Nat.le_of_not_lt none_left)

theorem finish (dealt : Dealt n pool) (held : pool.workers[w]? = some (.busy job token)) :
    Dealt n (pool.finish w job token) where
  next_le := dealt.next_le
  once := by
    have gone : (pool.workers.filterMap Worker.job).Perm
        (job :: (pool.workers.set w .idle).filterMap Worker.job) := held_let_go_perm held rfl rfl
    show (((pool.workers.set w _).filterMap _) ++ (pool.finished ++ [(job, token)]).map _).Perm _
    rw [List.map_append]
    refine List.Perm.trans ?_ dealt.once
    refine List.Perm.trans ?_ (gone.append_right _).symm
    rw [← List.append_assoc]
    exact List.perm_append_singleton _ _
  rested mem := by
    rcases List.mem_or_eq_of_mem_set mem with old | new
    · exact dealt.rested old
    · cases new

/-- When every worker rests, every job was done once. -/
theorem complete (dealt : Dealt n pool) (somebody : pool.workers ≠ [])
    (all : ∀ worker ∈ pool.workers, worker = .resting) :
    (pool.finished.map Prod.fst).Perm (List.range n) := by
  have nobody : pool.workers.filterMap Worker.job = [] :=
    List.filterMap_eq_nil_iff.mpr fun worker mem => by rw [all worker mem]; rfl
  obtain ⟨worker, mem⟩ := List.exists_mem_of_ne_nil _ somebody
  have through := dealt.rested (all worker mem ▸ mem)
  have once := dealt.once
  rwa [nobody, List.nil_append, through] at once

end WorkerPool.Dealt

end IccvBackend.Lib
