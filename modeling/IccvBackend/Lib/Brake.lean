/-
Module: IccvBackend.Lib.Brake
Purpose: A brake on repeated events: once enough of them fall in one window, nothing more happens
  for a window after the last one.
Trusted boundary: none
Main exports: recent, lockedUntil, lockedUntil_cons, lockedUntil_filter, recent_filter, Fits,
  Braked, Braked.cons
-/
import Mathlib.Data.List.Basic
import Mathlib.Data.List.Sort

namespace IccvBackend.Lib

/-!
The events are instants, the newest first.  The lock is not stored: it is worked out from the
events, measured from the newest one, so it can be asked at any later instant.
-/

/-- The events less than a window before an instant, or after it. -/
def recent (window : Nat) (events : List Nat) (now : Nat) : Nat :=
  (events.filter fun e => now < e + window).length

/-- Until when the events lock, asked at an instant. -/
def lockedUntil (window limit : Nat) (events : List Nat) (now : Nat) : Option Nat :=
  match events with
  | [] => none
  | last :: _ =>
      if limit ≤ recent window events last ∧ now < last + window then some (last + window) else none

variable {window limit now later cut : Nat} {events : List Nat}

theorem recent_cons_self (open_window : 0 < window) :
    recent window (now :: events) now = recent window events now + 1 := by
  have counted : now < now + window := Nat.lt_add_of_pos_right open_window
  simp [recent, counted]

/-- The lock that an event brings, asked later. -/
theorem lockedUntil_cons (open_window : 0 < window) :
    lockedUntil window limit (now :: events) later =
      if limit ≤ recent window events now + 1 ∧ later < now + window then some (now + window)
      else none := by
  simp only [lockedUntil, recent_cons_self open_window]

/-- Of a lock asked at two instants before its end the answer is the same. -/
theorem lockedUntil_of_lt {last : Nat} (locked : lockedUntil window limit events now = some last)
    (before : later < last) : lockedUntil window limit events later = some last := by
  cases events with
  | nil => cases locked
  | cons newest events =>
      simp only [lockedUntil, Option.ite_none_right_eq_some, Option.some.injEq] at locked ⊢
      exact ⟨⟨locked.1.1, locked.2 ▸ before⟩, locked.2⟩

/-! ### Forgetting old events -/

/-- Events older than the window are not recent. -/
theorem recent_filter (old : ∀ e ∈ events, e ≤ cut → e + window ≤ now) :
    recent window (events.filter fun e => cut < e) now = recent window events now := by
  unfold recent
  rw [List.filter_filter]
  congr 1
  refine List.filter_congr fun e mem => ?_
  by_cases here : e ≤ cut
  · have := old e mem here
    simp [Nat.not_lt.mpr this]
  · simp [Nat.not_le.mp here]

/-- Events older than two windows can be forgotten: they lock nothing, and count for no lock. -/
theorem lockedUntil_filter (sorted : events.Pairwise (· > ·))
    (old : ∀ e ∈ events, e ≤ cut → e + 2 * window ≤ now) :
    lockedUntil window limit (events.filter fun e => cut < e) now =
      lockedUntil window limit events now := by
  cases events with
  | nil => rfl
  | cons newest events =>
      obtain ⟨newer, sorted⟩ := List.pairwise_cons.mp sorted
      by_cases here : newest ≤ cut
      · -- everything is old, and the lock is over
        have past := old newest List.mem_cons_self here
        have gone : (newest :: events).filter (fun e => cut < e) = [] := by
          rw [List.filter_eq_nil_iff]
          intro e mem
          rcases List.mem_cons.mp mem with rfl | mem
          · simpa using here
          · have := newer e mem
            simp
            omega
        have ended : ¬ now < newest + window := by omega
        simp [gone, lockedUntil, ended]
      · rw [List.filter_cons_of_pos (by simpa using here)]
        simp only [lockedUntil]
        by_cases running : now < newest + window
        · -- the newest event is less than a window old: what counts with it is not forgotten
          have counts : recent window (newest :: events.filter fun e => cut < e) newest =
              recent window (newest :: events) newest := by
            have kept : recent window ((newest :: events).filter fun e => cut < e) newest =
                recent window (newest :: events) newest := recent_filter fun e mem gone => by
              have := old e mem gone
              omega
            rwa [List.filter_cons_of_pos (by simpa using here)] at kept
          rw [counts]
        · simp [running]

/-! ### How many events a window holds -/

/-- No two instants of `inside` are a window apart. -/
def Fits (window : Nat) (inside : Nat → Bool) : Prop :=
  ∀ x y, inside x → inside y → x < y + window

/-- No window holds more events than the limit. -/
def Braked (window limit : Nat) (events : List Nat) : Prop :=
  ∀ inside, Fits window inside → (events.filter inside).length ≤ limit

theorem Braked.nil : Braked window limit [] := fun _ _ => Nat.zero_le _

/-- An event that nothing locked leaves the windows as full as the limit allows. -/
theorem Braked.cons (braked : Braked window limit events) (sorted : events.Pairwise (· > ·))
    (after : ∀ e ∈ events, e < now) (positive : 0 < limit)
    (free : lockedUntil window limit events now = none) : Braked window limit (now :: events) := by
  intro inside fits
  by_cases here : inside now
  · rw [List.filter_cons_of_pos here, List.length_cons]
    by_contra full
    have enough : limit ≤ (events.filter inside).length := by omega
    cases events with
    | nil => simp at enough; omega
    | cons newest events =>
        have newer := (List.pairwise_cons.mp sorted).1
        have before := after newest List.mem_cons_self
        -- what the window holds besides the new event is recent at the newest of the old ones
        have counted : ((newest :: events).filter inside).length ≤
            recent window (newest :: events) newest := by
          refine (List.monotone_filter_right _ fun e inside_e => ?_).length_le
          have := fits now e here inside_e
          simp
          omega
        have running : now < newest + window := by
          obtain ⟨e, mem⟩ := List.exists_mem_of_length_pos (positive.trans_le enough)
          obtain ⟨mem, inside_e⟩ := List.mem_filter.mp mem
          have close := fits now e here inside_e
          rcases List.mem_cons.mp mem with rfl | mem
          · exact close
          · have := newer e mem
            omega
        simp [lockedUntil, enough.trans counted, running] at free
  · rw [List.filter_cons_of_neg here]
    exact braked inside fits

/-- The two kinds of half-open window. -/
theorem fits_closed_open (window a : Nat) : Fits window fun e => a ≤ e && e < a + window := by
  intro x y hx hy
  simp only [Bool.and_eq_true, decide_eq_true_eq] at hx hy
  omega

theorem fits_open_closed (window a : Nat) : Fits window fun e => a < e && e ≤ a + window := by
  intro x y hx hy
  simp only [Bool.and_eq_true, decide_eq_true_eq] at hx hy
  omega

end IccvBackend.Lib
