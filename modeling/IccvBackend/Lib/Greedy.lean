/-
Module: IccvBackend.Lib.Greedy
Purpose: Taking items in order, each when nothing it uses is used by then: what is taken never
  clashes, and what is left was kept out by something taken before it.
Trusted boundary: none
Main exports: greedy, greedy_sublist, greedy_disjoint, mem_greedy_or_blocked
-/
import Mathlib.Data.List.Basic
import Mathlib.Data.List.Nodup

namespace IccvBackend.Lib

variable {α κ : Type*} [DecidableEq κ] {uses : α → List κ} {cs : List α} {used : List κ} {c : α}

/-- The items taken: an item goes in when it uses nothing that is used. -/
def greedy (uses : α → List κ) : List α → List κ → List α
  | [], _ => []
  | c :: cs, used =>
      if (uses c).any fun k => k ∈ used then greedy uses cs used
      else c :: greedy uses cs (uses c ++ used)

theorem greedy_sublist : (greedy uses cs used).Sublist cs := by
  induction cs generalizing used with
  | nil => exact List.Sublist.refl _
  | cons c cs ih =>
      unfold greedy
      split
      · exact ih.cons c
      · exact ih.cons_cons c

/-- What is taken uses nothing that was used before. -/
theorem free_of_mem_greedy (mem : c ∈ greedy uses cs used) : ∀ k ∈ uses c, k ∉ used := by
  induction cs generalizing used with
  | nil => cases mem
  | cons d cs ih =>
      unfold greedy at mem
      split at mem
      case isTrue => exact ih mem
      case isFalse free =>
          rcases List.mem_cons.mp mem with rfl | later
          · simpa using free
          · intro k uses_k held
            exact ih later k uses_k (List.mem_append_right _ held)

/-- No two of the items taken use the same thing. -/
theorem greedy_disjoint :
    (greedy uses cs used).Pairwise fun c d => (uses c).Disjoint (uses d) := by
  induction cs generalizing used with
  | nil => exact List.Pairwise.nil
  | cons c cs ih =>
      unfold greedy
      split
      · exact ih
      · apply List.Pairwise.cons _ ih
        intro d taken k in_c in_d
        exact free_of_mem_greedy taken k in_d (List.mem_append_left _ in_c)

/-- An item is taken, or something it uses was used at the start, or something taken before it uses
the same. -/
theorem mem_greedy_or_blocked {R : α → α → Prop} (order : cs.Pairwise R) (mem : c ∈ cs) :
    c ∈ greedy uses cs used ∨ (∃ k ∈ uses c, k ∈ used) ∨
      ∃ d ∈ greedy uses cs used, R d c ∧ ∃ k ∈ uses c, k ∈ uses d := by
  induction cs generalizing used with
  | nil => cases mem
  | cons d cs ih =>
      have rest := List.pairwise_cons.mp order
      unfold greedy
      split
      case isTrue clash =>
          rcases List.mem_cons.mp mem with rfl | later
          · exact .inr (.inl (by simpa using clash))
          · exact ih rest.2 later
      case isFalse free =>
          rcases List.mem_cons.mp mem with rfl | later
          · exact .inl List.mem_cons_self
          · have before := rest.1 c later
            rcases ih rest.2 later with taken | ⟨k, uses_k, held⟩ | ⟨e, taken, earlier, shared⟩
            · exact .inl (List.mem_cons_of_mem d taken)
            · rcases List.mem_append.mp held with in_d | in_used
              · exact .inr (.inr ⟨d, List.mem_cons_self, before, k, uses_k, in_d⟩)
              · exact .inr (.inl ⟨k, uses_k, in_used⟩)
            · exact .inr (.inr ⟨e, List.mem_cons_of_mem d taken, earlier, shared⟩)

end IccvBackend.Lib
