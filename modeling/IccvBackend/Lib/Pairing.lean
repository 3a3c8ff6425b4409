/-
Module: IccvBackend.Lib.Pairing
Purpose: One-to-one pairings of two collections under a relation: those of the largest size, those
  to which no pair can be added, and when the two are the same.
Trusted boundary: none
Main exports: Pairing, LargestPairing, MaximalPairing, Crossing, firstFit, maximal_firstFit,
  exists_order_firstFit, maximal_card_iff
-/
import Mathlib.Data.Multiset.Count
import Mathlib.Data.Multiset.AddSub
import Mathlib.Data.Multiset.Filter
import Mathlib.Data.Multiset.UnionInter
import Mathlib.Data.Nat.Find
import Mathlib.Order.Bounds.Basic

namespace IccvBackend.Lib

variable {α β : Type*} {rel : α → β → Prop} {A : Multiset α} {B : Multiset β}
  {m m' : Multiset (α × β)} {n : Nat}

/-- Related pairs that use each element as often as it is there, at most. -/
structure Pairing (rel : α → β → Prop) (A : Multiset α) (B : Multiset β) (m : Multiset (α × β)) :
    Prop where
  left : m.map Prod.fst ≤ A
  right : m.map Prod.snd ≤ B
  related : ∀ p ∈ m, rel p.1 p.2

/-- The size of a largest pairing. -/
def LargestPairing (rel : α → β → Prop) (A : Multiset α) (B : Multiset β) (n : Nat) : Prop :=
  IsGreatest {size | ∃ m, Pairing rel A B m ∧ m.card = size} n

/-- A pairing to which no pair can be added. -/
structure MaximalPairing (rel : α → β → Prop) (A : Multiset α) (B : Multiset β)
    (m : Multiset (α × β)) : Prop extends Pairing rel A B m where
  full : ∀ x y, ¬ Pairing rel A B ((x, y) ::ₘ m)

/-- A pair of a maximal pairing that keeps two elements out, each of which could have had one end of
it. -/
structure Crossing (rel : α → β → Prop) (A : Multiset α) (B : Multiset β) : Prop where
  crossed : ∃ m x y x' y', MaximalPairing rel A B ((x', y') ::ₘ m) ∧
    x ::ₘ x' ::ₘ m.map Prod.fst ≤ A ∧ y ::ₘ y' ::ₘ m.map Prod.snd ≤ B ∧ rel x y' ∧ rel x' y

namespace Pairing

theorem nil : Pairing rel A B 0 :=
  ⟨Multiset.zero_le A, Multiset.zero_le B, fun _ mem => nomatch mem⟩

theorem card_le (pairing : Pairing rel A B m) : m.card ≤ A.card := by
  have fits := Multiset.card_le_card pairing.left
  rwa [Multiset.card_map] at fits

theorem swap (pairing : Pairing rel A B m) :
    Pairing (fun y x => rel x y) B A (m.map Prod.swap) := by
  constructor
  · simpa [Multiset.map_map] using pairing.right
  · simpa [Multiset.map_map] using pairing.left
  · intro p mem
    obtain ⟨q, inside, rfl⟩ := Multiset.mem_map.mp mem
    exact pairing.related q inside

theorem cons_iff {x : α} {y : β} :
    Pairing rel A B ((x, y) ::ₘ m) ↔ x ::ₘ m.map Prod.fst ≤ A ∧ y ::ₘ m.map Prod.snd ≤ B ∧
      rel x y ∧ ∀ p ∈ m, rel p.1 p.2 := by
  constructor
  case mp =>
      intro pairing
      refine ⟨by simpa using pairing.left, by simpa using pairing.right, ?_, ?_⟩
      · exact pairing.related (x, y) (Multiset.mem_cons_self _ _)
      · exact fun p mem => pairing.related p (Multiset.mem_cons_of_mem mem)
  case mpr =>
      rintro ⟨left, right, here, rest⟩
      refine ⟨by simpa using left, by simpa using right, fun p mem => ?_⟩
      rcases Multiset.mem_cons.mp mem with rfl | later
      · exact here
      · exact rest p later

end Pairing

/-! ### Largest and maximal -/

theorem exists_largest (rel : α → β → Prop) (A : Multiset α) (B : Multiset β) :
    ∃ n, LargestPairing rel A B n := by
  classical
  have bounded : ∀ size, (∃ m, Pairing rel A B m ∧ m.card = size) → size ≤ A.card := by
    rintro size ⟨m, pairing, rfl⟩
    exact pairing.card_le
  have some_size : ∃ size, ∃ m, Pairing rel A B m ∧ m.card = size := ⟨0, 0, Pairing.nil, rfl⟩
  refine ⟨Nat.findGreatest (fun size => ∃ m, Pairing rel A B m ∧ m.card = size) A.card, ?_, ?_⟩
  · obtain ⟨size, there⟩ := some_size
    exact Nat.findGreatest_spec (bounded size there) there
  · intro size there
    exact Nat.le_findGreatest (bounded size there) there

/-- Turned around, a maximal pairing is a maximal pairing. -/
theorem MaximalPairing.swap (maximal : MaximalPairing rel A B m) :
    MaximalPairing (fun y x => rel x y) B A (m.map Prod.swap) := by
  refine ⟨maximal.toPairing.swap, fun y x more => maximal.full x y ?_⟩
  simpa [Multiset.map_map] using more.swap

/-! ### What a larger pairing has that another does not -/

section Count

variable [DecidableEq α] [DecidableEq β]

/-- Where more elements have an image in one collection than in another, one of them is there more
often. -/
theorem exists_count_lt_of_map {γ δ : Type*} [DecidableEq γ] [DecidableEq δ] {f : γ → δ}
    {s t : Multiset γ} {d : δ} (fewer : (s.map f).count d < (t.map f).count d) :
    ∃ c, f c = d ∧ s.count c < t.count c := by
  by_contra none_more
  push Not at none_more
  have sub : t.filter (fun c => d = f c) ≤ s.filter fun c => d = f c := by
    rw [Multiset.le_iff_count]
    intro c
    by_cases image : d = f c
    · simp only [Multiset.count_filter, if_pos image]
      exact none_more c image.symm
    · simp only [Multiset.count_filter, if_neg image, le_refl]
  have fits := Multiset.card_le_card sub
  rw [← Multiset.count_map, ← Multiset.count_map] at fits
  exact absurd fewer (Nat.not_lt.mpr fits)

theorem exists_count_lt_of_card {γ : Type*} [DecidableEq γ] {s t : Multiset γ}
    (fewer : s.card < t.card) : ∃ c, s.count c < t.count c := by
  by_contra none_more
  push Not at none_more
  exact absurd (Multiset.card_le_card (Multiset.le_iff_count.mpr none_more)) (Nat.not_le.mpr fewer)

/-- One more of an element fits where there are not yet as many as there is room for. -/
theorem cons_le_of_count_lt {γ : Type*} [DecidableEq γ] {s t : Multiset γ} {c : γ} (sub : s ≤ t)
    (room : s.count c < t.count c) : c ::ₘ s ≤ t := by
  rw [Multiset.le_iff_count]
  intro d
  by_cases same : d = c
  · rw [same, Multiset.count_cons_self]
    exact room
  · rw [Multiset.count_cons_of_ne same]
    exact Multiset.count_le_of_le d sub

/-- Two that fit with a third each fit together, when they are not the same. -/
theorem cons_cons_le {γ : Type*} [DecidableEq γ] {s t : Multiset γ} {c d e : γ} (differ : d ≠ e)
    (first : d ::ₘ c ::ₘ s ≤ t) (second : c ::ₘ e ::ₘ s ≤ t) : d ::ₘ e ::ₘ s ≤ t := by
  have without : e ::ₘ s ≤ t := (Multiset.le_cons_self _ c).trans second
  apply cons_le_of_count_lt without
  rw [Multiset.count_cons_of_ne differ]
  have counted := Multiset.count_le_of_le d first
  rw [Multiset.count_cons_self] at counted
  have more := Multiset.count_le_of_le d (Multiset.le_cons_self s c)
  omega

/-! ### Crossings

Two pairings, one of them maximal and the other larger: exchanging a pair of the first for one of
the second brings the first nearer to the second, until a pair can be added. -/

/-- A pair of the larger pairing whose left end the other still has, and the pair of the other that
holds its right end. -/
theorem exists_exchange (maximal : MaximalPairing rel A B m) (larger : Pairing rel A B m')
    (fewer : m.card < m'.card) :
    ∃ x y x', x ::ₘ m.map Prod.fst ≤ A ∧ m.count (x, y) < m'.count (x, y) ∧
      m'.count (x', y) < m.count (x', y) := by
  have fewer_left : (m.map Prod.fst).card < (m'.map Prod.fst).card := by
    rwa [Multiset.card_map, Multiset.card_map]
  obtain ⟨_, fewer_x⟩ := exists_count_lt_of_card fewer_left
  obtain ⟨⟨x, y⟩, rfl, fewer_pair⟩ := exists_count_lt_of_map fewer_x
  have free := cons_le_of_count_lt maximal.left
    (fewer_x.trans_le (Multiset.count_le_of_le _ larger.left))
  refine ⟨x, y, ?_⟩
  have there : (x, y) ∈ m' := Multiset.count_pos.mp (Nat.zero_lt_of_lt fewer_pair)
  -- the right end is taken as often as it can be
  have taken : B.count y ≤ (m.map Prod.snd).count y := by
    by_contra room
    have fits := cons_le_of_count_lt maximal.right (Nat.not_le.mp room)
    exact maximal.full x y
      (Pairing.cons_iff.mpr ⟨free, fits, larger.related _ there, maximal.related⟩)
  have others : ((m'.erase (x, y)).map Prod.snd).count y < (m.map Prod.snd).count y := by
    have all : ((x, y) ::ₘ m'.erase (x, y)).map Prod.snd ≤ B := by
      rw [Multiset.cons_erase there]
      exact larger.right
    have counted := Multiset.count_le_of_le y all
    rw [Multiset.map_cons, Multiset.count_cons_self] at counted
    omega
  obtain ⟨⟨x', z⟩, right_end, more⟩ := exists_count_lt_of_map others
  obtain rfl : z = y := right_end
  refine ⟨x', free, fewer_pair, ?_⟩
  by_cases same : (x', z) = (x, z)
  · rw [same, Multiset.count_erase_self] at more
    omega
  · rwa [Multiset.count_erase_of_ne same] at more

/-- The exchange brings a pairing nearer to the other. -/
theorem inter_lt_exchange {x : α} {y : β} {x' : α}
    (gained : ((x', y) ::ₘ m).count (x, y) < m'.count (x, y))
    (lost : m'.count (x', y) < ((x', y) ::ₘ m).count (x', y)) :
    (((x', y) ::ₘ m) ∩ m').card < (((x, y) ::ₘ m) ∩ m').card := by
  have differ : (x, y) ≠ (x', y) := by
    intro same
    rw [same] at gained
    omega
  suffices more : (x, y) ::ₘ (((x', y) ::ₘ m) ∩ m') ≤ ((x, y) ::ₘ m) ∩ m' by
    have counted := Multiset.card_le_card more
    rwa [Multiset.card_cons] at counted
  rw [Multiset.le_iff_count]
  intro p
  rw [Multiset.count_inter]
  by_cases new : p = (x, y)
  · rw [new, Multiset.count_cons_self, Multiset.count_cons_self, Multiset.count_inter,
      Multiset.count_cons_of_ne differ]
    rw [Multiset.count_cons_of_ne differ] at gained
    omega
  · rw [Multiset.count_cons_of_ne new, Multiset.count_cons_of_ne new, Multiset.count_inter]
    by_cases old : p = (x', y)
    · rw [old]
      rw [Multiset.count_cons_self] at lost ⊢
      omega
    · rw [Multiset.count_cons_of_ne old]

/-- A maximal pairing that is not of the largest size leads to a crossing. -/
theorem exists_crossing (maximal : MaximalPairing rel A B m) (larger : Pairing rel A B m')
    (fewer : m.card < m'.card) : Crossing rel A B := by
  -- on how far the maximal pairing is from the larger one
  induction far : m'.card - (m ∩ m').card using Nat.strong_induction_on generalizing m with
  | _ far_m ih =>
      obtain ⟨x, y, x', free, gained, lost⟩ := exists_exchange maximal larger fewer
      obtain ⟨rest, rfl⟩ := Multiset.exists_cons_of_mem
        (Multiset.count_pos.mp (Nat.zero_lt_of_lt lost))
      rw [Multiset.map_cons] at free
      obtain ⟨_, right, _, related⟩ := Pairing.cons_iff.mp maximal.toPairing
      have there : rel x y :=
        larger.related (x, y) (Multiset.count_pos.mp (Nat.zero_lt_of_lt gained))
      have without : x ::ₘ rest.map Prod.fst ≤ A :=
        (Multiset.cons_le_cons x (Multiset.le_cons_self _ x')).trans free
      have exchanged : Pairing rel A B ((x, y) ::ₘ rest) :=
        Pairing.cons_iff.mpr ⟨without, right, there, related⟩
      by_cases full : ∀ u v, ¬ Pairing rel A B ((u, v) ::ₘ (x, y) ::ₘ rest)
      · have nearer := inter_lt_exchange gained lost
        have less : ((x, y) ::ₘ rest) ∩ m' ≤ m' := Multiset.inter_le_right
        have inside := Multiset.card_le_card less
        refine ih _ ?_ ⟨exchanged, full⟩ (by simpa using fewer) rfl
        omega
      · push Not at full
        obtain ⟨u, v, more⟩ := full
        obtain ⟨left_more, right_more, new, _⟩ := Pairing.cons_iff.mp more
        rw [Multiset.map_cons] at left_more right_more
        -- what can be added is the end that was let go
        by_cases same : u = x'
        · subst same
          refine ⟨rest, x, v, u, y, maximal, free, right_more, there, new⟩
        · have both := cons_cons_le same left_more free
          exact absurd (Pairing.cons_iff.mpr
            ⟨by simpa using both, by simpa using right_more, new, maximal.related⟩)
            (maximal.full u v)

end Count

/-- A crossing is two pairs in place of one. -/
theorem Crossing.exists_larger (crossing : Crossing rel A B) :
    ∃ m, MaximalPairing rel A B m ∧ ∃ m', Pairing rel A B m' ∧ m.card < m'.card := by
  obtain ⟨m, x, y, x', y', maximal, left, right, toRight, toLeft⟩ := crossing.crossed
  obtain ⟨_, _, _, related⟩ := Pairing.cons_iff.mp maximal.toPairing
  refine ⟨_, maximal, (x, y') ::ₘ (x', y) ::ₘ m, Pairing.cons_iff.mpr ⟨?_, ?_, toRight, ?_⟩, ?_⟩
  · simpa using left
  · rw [Multiset.map_cons, Multiset.cons_swap]
    exact right
  · intro p mem
    rcases Multiset.mem_cons.mp mem with rfl | later
    · exact toLeft
    · exact related p later
  · simp

/-- The maximal pairings are all of the largest size exactly when nothing is crossed. -/
theorem maximal_card_iff (largest : LargestPairing rel A B n) :
    (∀ m, MaximalPairing rel A B m → m.card = n) ↔ ¬ Crossing rel A B := by
  classical
  constructor
  case mp =>
      intro all crossing
      obtain ⟨m, maximal, m', larger, fewer⟩ := crossing.exists_larger
      have bound := largest.2 ⟨m', larger, rfl⟩
      rw [all m maximal] at fewer
      omega
  case mpr =>
      intro no_crossing m maximal
      obtain ⟨⟨m', pairing, rfl⟩, bound⟩ := largest
      refine le_antisymm (bound ⟨m, maximal.toPairing, rfl⟩) (Nat.not_lt.mp fun fewer => ?_)
      exact no_crossing (exists_crossing maximal pairing fewer)

/-! ### First fit -/

section FirstFit

variable {like : α → β → Bool} {xs : List α} {ys : List β}

/-- Each element in order takes the first of the others it is like that is still there. -/
def firstFit (like : α → β → Bool) : List α → List β → List (α × β)
  | [], _ => []
  | x :: xs, ys =>
      match ys.find? (like x) with
      | none => firstFit like xs ys
      | some y => (x, y) :: firstFit like xs (ys.eraseP (like x))

/-- What is taken leaves the rest. -/
theorem coe_eraseP_find? {like : β → Bool} {y : β} (found : ys.find? like = some y) :
    (ys : Multiset β) = y ::ₘ (ys.eraseP like : Multiset β) := by
  induction ys with
  | nil => cases found
  | cons z ys ih =>
      rw [List.find?_cons] at found
      split at found
      case h_1 taken =>
          obtain rfl := Option.some.inj found
          rw [List.eraseP_cons_of_pos taken]
          rfl
      case h_2 left_there =>
          rw [List.eraseP_cons_of_neg (by simp [left_there]), ← Multiset.cons_coe, ih found,
            ← Multiset.cons_coe, Multiset.cons_swap]

/-- To what first fit makes, no pair can be added. -/
theorem maximal_firstFit (like : α → β → Bool) (xs : List α) (ys : List β) :
    MaximalPairing (fun x y => like x y = true) xs ys (firstFit like xs ys : Multiset (α × β)) := by
  classical
  induction xs generalizing ys with
  | nil =>
      refine ⟨Pairing.nil, fun x y more => ?_⟩
      have room := Multiset.card_le_card (Pairing.cons_iff.mp more).1
      simp [firstFit] at room
  | cons x xs ih =>
      rw [firstFit]
      split
      case h_1 none_like =>
          have maximal := ih ys
          refine ⟨⟨maximal.left.trans (Multiset.le_cons_self _ x), maximal.right,
            maximal.related⟩, fun u v more => ?_⟩
          obtain ⟨left, right, new, _⟩ := Pairing.cons_iff.mp more
          -- whoever could be added is not the one without any like it
          have other : u ≠ x := by
            rintro rfl
            have there : v ∈ ys := Multiset.mem_of_le right (Multiset.mem_cons_self v _)
            exact List.find?_eq_none.mp none_like v there new
          have counted := Multiset.count_le_of_le u left
          rw [Multiset.count_cons_self, ← Multiset.cons_coe, Multiset.count_cons_of_ne other]
            at counted
          exact maximal.full u v (Pairing.cons_iff.mpr
            ⟨cons_le_of_count_lt maximal.left counted, right, new, maximal.related⟩)
      case h_2 y found =>
          have maximal := ih (ys.eraseP (like x))
          rw [coe_eraseP_find? found, ← Multiset.cons_coe, ← Multiset.cons_coe]
          refine ⟨Pairing.cons_iff.mpr ⟨Multiset.cons_le_cons x maximal.left,
            Multiset.cons_le_cons y maximal.right, List.find?_some found, maximal.related⟩,
            fun u v more => ?_⟩
          obtain ⟨left, right, new, _⟩ := Pairing.cons_iff.mp more
          rw [Multiset.map_cons, Multiset.cons_swap, Multiset.cons_le_cons_iff] at left right
          exact maximal.full u v (Pairing.cons_iff.mpr ⟨left, right, new, maximal.related⟩)

/-- Pairs that stand first in both lists are made. -/
theorem firstFit_pairs {l : List (α × β)} (related : ∀ p ∈ l, like p.1 p.2 = true) :
    firstFit like (l.map Prod.fst ++ xs) (l.map Prod.snd ++ ys) = l ++ firstFit like xs ys := by
  induction l with
  | nil => rfl
  | cons p l ih =>
      have here := related p List.mem_cons_self
      simp only [List.map_cons, List.cons_append, firstFit, List.find?_cons_of_pos here,
        List.eraseP_cons_of_pos here]
      rw [ih fun q mem => related q (List.mem_cons_of_mem p mem)]

/-- For every maximal pairing there is an order in which first fit makes one of its size. -/
theorem exists_order_firstFit
    (maximal : MaximalPairing (fun x y => like x y = true) (xs : Multiset α) (ys : Multiset β) m) :
    ∃ xs' ys', xs'.Perm xs ∧ ys'.Perm ys ∧ (firstFit like xs' ys').length = m.card := by
  classical
  obtain ⟨l, rfl⟩ := Quot.exists_rep m
  obtain ⟨restA, splitA⟩ := Multiset.le_iff_exists_add.mp maximal.left
  obtain ⟨restB, splitB⟩ := Multiset.le_iff_exists_add.mp maximal.right
  obtain ⟨ra, rfl⟩ := Quot.exists_rep restA
  obtain ⟨rb, rfl⟩ := Quot.exists_rep restB
  refine ⟨l.map Prod.fst ++ ra, l.map Prod.snd ++ rb, ?_, ?_, ?_⟩
  · exact (Multiset.coe_eq_coe.mp splitA).symm
  · exact (Multiset.coe_eq_coe.mp splitB).symm
  · rw [firstFit_pairs maximal.related]
    -- anything more could be added to the pairing
    have nothing : firstFit like ra rb = [] := by
      by_contra some_pair
      obtain ⟨⟨u, v⟩, rest, first⟩ := List.exists_cons_of_ne_nil some_pair
      have more := (maximal_firstFit like ra rb).toPairing
      rw [first, ← Multiset.cons_coe] at more
      obtain ⟨left, right, new, _⟩ := Pairing.cons_iff.mp more
      refine maximal.full u v (Pairing.cons_iff.mpr ⟨?_, ?_, new, maximal.related⟩)
      · rw [splitA, ← Multiset.singleton_add, Multiset.add_comm]
        exact Multiset.add_le_add_left (Multiset.singleton_le.mpr
          (Multiset.mem_of_le left (Multiset.mem_cons_self u _)))
      · rw [splitB, ← Multiset.singleton_add, Multiset.add_comm]
        exact Multiset.add_le_add_left (Multiset.singleton_le.mpr
          (Multiset.mem_of_le right (Multiset.mem_cons_self v _)))
    rw [nothing, List.append_nil]
    rfl

end FirstFit

end IccvBackend.Lib
