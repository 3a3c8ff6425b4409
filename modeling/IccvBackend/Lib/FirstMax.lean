/-
Module: IccvBackend.Lib.FirstMax
Purpose: The first of the greatest elements of a list, as a left fold keeps it and as a stable
  descending sort puts it in front.
Trusted boundary: none
Main exports: firstMax, firstMax_eq_some_iff, firstMax_perm, firstMax_map,
  head?_insertionSort_eq_firstMax, clearMax, clearMax_eq_some_iff, clearMax_perm
-/
import Mathlib.Data.List.Sort

namespace IccvBackend.Lib

/-!
Two idioms choose one element of a list by a key: a left fold that replaces the current choice only
by a strictly greater element, and the head of the list sorted by descending key with a stable
sort.  Both choose the first element whose key no other key exceeds, and that element is the only
one with elements of smaller key before it and of no greater key after it.
-/

variable {α β : Type*} [LinearOrder β]

/-- One choice: the newcomer replaces the current element only when it is strictly greater. -/
def keepGreater (key : α → β) (best candidate : α) : α :=
  if key best < key candidate then candidate else best

/-- The element a left fold of `keepGreater` ends on. -/
def firstMax (key : α → β) : List α → Option α
  | [] => none
  | first :: rest => some (rest.foldl (keepGreater key) first)

/-- What makes `a` the first of the greatest elements. -/
def IsFirstMax (key : α → β) (elements : List α) (a : α) : Prop :=
  ∃ before after, elements = before ++ a :: after ∧
    (∀ x ∈ before, key x < key a) ∧ ∀ x ∈ after, key x ≤ key a

@[simp] theorem firstMax_nil (key : α → β) : firstMax key [] = none := rfl

/-- The choice between the first two elements is made first. -/
theorem firstMax_cons_cons (key : α → β) (a b : α) (rest : List α) :
    firstMax key (a :: b :: rest) = firstMax key (keepGreater key a b :: rest) := rfl

theorem firstMax_eq_none_iff {key : α → β} {elements : List α} :
    firstMax key elements = none ↔ elements = [] := by
  cases elements <;> simp [firstMax]

/-- The fold ends on the first of the greatest elements. -/
theorem isFirstMax_of_firstMax {key : α → β} :
    ∀ {elements : List α} {a : α}, firstMax key elements = some a → IsFirstMax key elements a
  | [], a, found => by simp at found
  | [first], a, found => by
      obtain rfl : first = a := by simpa [firstMax] using found
      exact ⟨[], [], by simp⟩
  | first :: second :: rest, a, found => by
      rw [firstMax_cons_cons] at found
      have ih := isFirstMax_of_firstMax found
      obtain ⟨before, after, split_at, smaller, no_greater⟩ := ih
      by_cases greater : key first < key second
      · -- the second element took the place of the first, which is smaller than the choice
        simp only [keepGreater, if_pos greater] at split_at
        cases before with
        | nil =>
            obtain ⟨rfl, rfl⟩ : second = a ∧ rest = after := by simpa using split_at
            exact ⟨[first], rest, by simp, by simpa using greater, no_greater⟩
        | cons b before =>
            obtain ⟨rfl, rfl⟩ : second = b ∧ rest = before ++ a :: after := by simpa using split_at
            refine ⟨first :: second :: before, after, by simp, ?_, no_greater⟩
            intro x mem
            rcases List.mem_cons.mp mem with rfl | mem
            · exact greater.trans (smaller _ (by simp))
            · exact smaller x mem
      · simp only [keepGreater, if_neg greater] at split_at
        cases before with
        | nil =>
            obtain ⟨rfl, rfl⟩ : first = a ∧ rest = after := by simpa using split_at
            refine ⟨[], second :: rest, by simp, by simp, ?_⟩
            intro x mem
            rcases List.mem_cons.mp mem with rfl | mem
            · exact not_lt.mp greater
            · exact no_greater x mem
        | cons b before =>
            obtain ⟨rfl, rfl⟩ : first = b ∧ rest = before ++ a :: after := by simpa using split_at
            refine ⟨first :: second :: before, after, by simp, ?_, no_greater⟩
            intro x mem
            rcases List.mem_cons.mp mem with rfl | mem
            · exact smaller _ (by simp)
            · rcases List.mem_cons.mp mem with rfl | mem
              · exact (not_lt.mp greater).trans_lt (smaller _ (by simp))
              · exact smaller x (by simp [mem])

theorem firstMax_mem {key : α → β} {elements : List α} {a : α}
    (found : firstMax key elements = some a) : a ∈ elements := by
  obtain ⟨before, after, rfl, _⟩ := isFirstMax_of_firstMax found
  simp

/-- No element exceeds the chosen one. -/
theorem le_firstMax {key : α → β} {elements : List α} {a : α}
    (found : firstMax key elements = some a) : ∀ x ∈ elements, key x ≤ key a := by
  obtain ⟨before, after, rfl, smaller, no_greater⟩ := isFirstMax_of_firstMax found
  intro x mem
  rcases List.mem_append.mp mem with mem | mem
  · exact (smaller x mem).le
  · rcases List.mem_cons.mp mem with rfl | mem
    · exact le_rfl
    · exact no_greater x mem

/-- A list has one first greatest element at most. -/
theorem IsFirstMax.unique {key : α → β} {elements : List α} {a b : α}
    (ha : IsFirstMax key elements a) (hb : IsFirstMax key elements b) : a = b := by
  obtain ⟨before, after, rfl, smaller, no_greater⟩ := ha
  obtain ⟨before', after', same, smaller', no_greater'⟩ := hb
  rcases List.append_eq_append_iff.mp same with ⟨middle, rfl, tail⟩ | ⟨middle, rfl, tail⟩
  · cases middle with
    | nil => simpa using (List.cons.inj tail).1
    | cons m middle =>
        obtain ⟨rfl, rfl⟩ : a = m ∧ after = middle ++ b :: after' := by simpa using tail
        exact absurd (smaller' a (by simp)) (not_lt.mpr (no_greater b (by simp)))
  · cases middle with
    | nil => simpa using (List.cons.inj tail).1.symm
    | cons m middle =>
        obtain ⟨rfl, rfl⟩ : b = m ∧ after' = middle ++ a :: after := by simpa using tail
        exact absurd (smaller b (by simp)) (not_lt.mpr (no_greater' a (by simp)))

theorem firstMax_eq_some_iff {key : α → β} {elements : List α} {a : α} :
    firstMax key elements = some a ↔ IsFirstMax key elements a := by
  refine ⟨isFirstMax_of_firstMax, fun first => ?_⟩
  cases found : firstMax key elements with
  | none =>
      obtain ⟨before, after, rfl, _⟩ := first
      simp [firstMax_eq_none_iff] at found
  | some b => rw [(isFirstMax_of_firstMax found).unique first]

/-- When the keys differ, the choice does not depend on the order of the list. -/
theorem firstMax_perm {key : α → β} {xs ys : List α} (perm : xs.Perm ys)
    (distinct : (xs.map key).Nodup) : firstMax key xs = firstMax key ys := by
  cases found : firstMax key xs with
  | none =>
      obtain rfl := firstMax_eq_none_iff.mp found
      rw [List.nil_perm.mp perm, firstMax_nil]
  | some a =>
      cases found' : firstMax key ys with
      | none =>
          obtain rfl := firstMax_eq_none_iff.mp found'
          simp [List.perm_nil.mp perm] at found
      | some b =>
          have ha := firstMax_mem found
          have hb := perm.mem_iff.mpr (firstMax_mem found')
          have same : key a = key b :=
            le_antisymm (le_firstMax found' a (perm.mem_iff.mp ha)) (le_firstMax found b hb)
          rw [List.inj_on_of_nodup_map distinct ha hb same]

/-- The choice commutes with a translation of the elements. -/
theorem firstMax_map {γ : Type*} (key : α → β) (f : γ → α) (elements : List γ) :
    firstMax key (elements.map f) = (firstMax (fun x => key (f x)) elements).map f := by
  cases elements with
  | nil => rfl
  | cons first rest =>
      have hom : ∀ best candidate, keepGreater key (f best) (f candidate) =
          f (keepGreater (fun x => key (f x)) best candidate) := by
        intro best candidate
        unfold keepGreater
        split <;> rfl
      simp only [List.map_cons, firstMax, List.foldl_map, Option.map_some]
      exact congrArg some (List.foldl_hom f hom)

/-- A stable sort by descending key puts the first of the greatest elements in front. -/
theorem head?_insertionSort_eq_firstMax (key : α → β) :
    ∀ elements : List α,
      (elements.insertionSort fun a b => key b ≤ key a).head? = firstMax key elements
  | [] => rfl
  | first :: rest => by
      have ih := head?_insertionSort_eq_firstMax key rest
      rw [List.insertionSort_cons]
      cases sorted : rest.insertionSort fun a b => key b ≤ key a with
      | nil =>
          rw [sorted] at ih
          obtain rfl := firstMax_eq_none_iff.mp ih.symm
          rfl
      | cons top others =>
          rw [sorted] at ih
          have chosen : firstMax key rest = some top := ih.symm
          rw [List.orderedInsert_cons]
          by_cases not_greater : key top ≤ key first
          · rw [if_pos not_greater, List.head?_cons, eq_comm, firstMax_eq_some_iff]
            exact ⟨[], rest, rfl, by simp, fun x mem =>
              (le_firstMax chosen x mem).trans not_greater⟩
          · obtain ⟨before, after, rfl, smaller, no_greater⟩ := isFirstMax_of_firstMax chosen
            rw [if_neg not_greater, List.head?_cons, eq_comm, firstMax_eq_some_iff]
            refine ⟨first :: before, after, rfl, ?_, no_greater⟩
            intro x mem
            rcases List.mem_cons.mp mem with rfl | mem
            · exact not_le.mp not_greater
            · exact smaller x mem

/-! ### The clear favourite -/

/-- The head of a list, when the next key is smaller. -/
def clearHead (key : α → β) : List α → Option α
  | [] => none
  | [a] => some a
  | a :: b :: _ => if key b < key a then some a else none

theorem clearHead_cons_cons (key : α → β) (a b : α) (rest : List α) :
    clearHead key (a :: b :: rest) = if key b < key a then some a else none := rfl

theorem clearHead_mem {key : α → β} {elements : List α} {a : α}
    (found : clearHead key elements = some a) : a ∈ elements := by
  unfold clearHead at found
  split at found
  case h_1 => cases found
  case h_2 b =>
      obtain rfl := Option.some.inj found
      exact List.mem_cons_self
  case h_3 b c _ =>
      split at found
      · obtain rfl := Option.some.inj found
        exact List.mem_cons_self
      · cases found

/-- The head of the list sorted by descending key, when the next key is smaller. -/
def clearMax (key : α → β) (elements : List α) : Option α :=
  clearHead key (elements.insertionSort fun a b => key b ≤ key a)

/-- The clear favourite is the element whose key exceeds every other. -/
theorem clearMax_eq_some_iff {key : α → β} {elements : List α} (nodup : elements.Nodup) {a : α} :
    clearMax key elements = some a ↔ a ∈ elements ∧ ∀ x ∈ elements, x ≠ a → key x < key a := by
  have : Std.Total fun a b : α => key b ≤ key a := ⟨fun a b => le_total (key b) (key a)⟩
  have : IsTrans α fun a b => key b ≤ key a := ⟨fun _ _ _ ab bc => bc.trans ab⟩
  have sorted := List.pairwise_insertionSort (fun a b : α => key b ≤ key a) elements
  have perm := List.perm_insertionSort (fun a b : α => key b ≤ key a) elements
  have mem_iff : ∀ x, x ∈ elements ↔ x ∈ elements.insertionSort fun a b => key b ≤ key a :=
    fun x => perm.mem_iff.symm
  have distinct := perm.nodup_iff.mpr nodup
  unfold clearMax
  simp only [mem_iff]
  cases split : elements.insertionSort fun a b => key b ≤ key a with
  | nil => simp [clearHead]
  | cons b rest =>
      rw [split] at sorted distinct
      have below := (List.pairwise_cons.mp sorted).1
      have fresh := (List.nodup_cons.mp distinct).1
      cases rest with
      | nil =>
          simp only [clearHead, Option.some.injEq, List.mem_singleton]
          constructor
          · rintro rfl
            exact ⟨rfl, fun x is_b other => absurd is_b other⟩
          · rintro ⟨rfl, _⟩
            rfl
      | cons c others =>
          have next := (List.pairwise_cons.mp (List.pairwise_cons.mp sorted).2).1
          constructor
          · intro found
            rw [clearHead_cons_cons] at found
            obtain ⟨clear, is_head⟩ := Option.ite_none_right_eq_some.mp found
            obtain rfl := Option.some.inj is_head
            refine ⟨List.mem_cons_self, fun x mem other => ?_⟩
            rcases List.mem_cons.mp mem with same | later
            · exact absurd same other
            · rcases List.mem_cons.mp later with rfl | last
              · exact clear
              · exact (next x last).trans_lt clear
          · rintro ⟨mem, beats⟩
            rcases List.mem_cons.mp mem with rfl | later
            · have smaller : key c < key a := by
                apply beats c (by simp)
                rintro rfl
                exact fresh List.mem_cons_self
              exact if_pos smaller
            · -- the head of the list would have a smaller key than a later element
              have other : b ≠ a := by
                rintro rfl
                exact fresh later
              exact absurd (beats b List.mem_cons_self other) (not_lt.mpr (below a later))

theorem clearMax_perm {key : α → β} {xs ys : List α} (perm : xs.Perm ys) (nodup : xs.Nodup) :
    clearMax key xs = clearMax key ys := by
  apply Option.ext
  intro a
  rw [clearMax_eq_some_iff nodup, clearMax_eq_some_iff (perm.nodup_iff.mp nodup)]
  simp only [perm.mem_iff]

theorem clearMax_mem {key : α → β} {elements : List α} {a : α}
    (found : clearMax key elements = some a) : a ∈ elements :=
  (List.mem_insertionSort _).mp (clearHead_mem found)

end IccvBackend.Lib
