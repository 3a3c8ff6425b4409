/-
Module: IccvBackend.Lib.Sync
Purpose: Bringing the rows of a table to a submitted list: rows that were not submitted go,
  submitted ones with an id replace theirs, and the others are created.
Trusted boundary: none
Main exports: put, kept, sync, foldl_put, sync_forall₂
-/
import Mathlib.Data.List.Nodup
import Mathlib.Data.List.Forall2
import Mathlib.Data.List.Perm.Basic
import Mathlib.Data.List.Perm.Lattice

namespace IccvBackend.Lib

variable {α β κ : Type*} [DecidableEq κ]

section Defs

variable (key : α → κ) (id? : β → Option κ) (create : β → α) (update : β → α → α)

/-- One submitted row is written: over the row of its id, or after the others. -/
def put (rows : List α) (b : β) : List α :=
  match id? b with
  | none => rows ++ [create b]
  | some k => rows.map fun a => if key a = k then update b a else a

/-- The rows that were submitted again. -/
def kept (rows : List α) (bs : List β) : List α :=
  rows.filter fun a => bs.any fun b => id? b = some (key a)

/-- Absent rows go, then each submitted row is written. -/
def sync (rows : List α) (bs : List β) : List α :=
  bs.foldl (put key id? create update) (kept key id? rows bs)

/-- The submitted row of a row. -/
def submitted (bs : List β) (a : α) : Option β := bs.find? fun b => id? b = some (key a)

def refreshed (bs : List β) (a : α) : α :=
  (submitted key id? bs a).elim a fun b => update b a

end Defs

variable {key : α → κ} {id? : β → Option κ} {create : β → α} {update : β → α → α} {rows : List α}
  {bs : List β}

theorem submitted_eq_some {a : α} {b : β} (found : submitted key id? bs a = some b) :
    b ∈ bs ∧ id? b = some (key a) := by
  unfold submitted at found
  have named := List.find?_some found
  exact ⟨List.mem_of_find?_eq_some found, of_decide_eq_true named⟩

omit [DecidableEq κ] in
/-- The submitted rows with their ids: one id names one of them. -/
theorem eq_of_id? (ids : (bs.filterMap id?).Nodup) {b b' : β} (mem : b ∈ bs) (mem' : b' ∈ bs)
    {k : κ} (is : id? b = some k) (is' : id? b' = some k) : b = b' := by
  induction bs with
  | nil => cases mem
  | cons c bs ih =>
      have absent : ∀ d ∈ bs, id? c = some k → id? d = some k → False := by
        intro d d_mem c_is d_is
        rw [List.filterMap_cons_some c_is] at ids
        exact (List.nodup_cons.mp ids).1 (List.mem_filterMap.mpr ⟨d, d_mem, d_is⟩)
      have rest : (bs.filterMap id?).Nodup :=
        ids.sublist ((List.sublist_cons_self c bs).filterMap id?)
      rcases List.mem_cons.mp mem with rfl | later
      · rcases List.mem_cons.mp mem' with rfl | later'
        · rfl
        · exact (absent b' later' is is').elim
      · rcases List.mem_cons.mp mem' with rfl | later'
        · exact (absent b later is' is).elim
        · exact ih rest later later'

/-- Writing the submitted rows one by one: each row takes what was submitted for it, and the new
rows come after. -/
theorem foldl_put (keep : ∀ b a, key (update b a) = key a) (ids : (bs.filterMap id?).Nodup)
    (fresh : ∀ b ∈ bs, key (create b) ∉ bs.filterMap id?) (rows : List α) :
    bs.foldl (put key id? create update) rows =
      rows.map (refreshed key id? update bs) ++ (bs.filter fun b => (id? b).isNone).map create := by
  induction bs generalizing rows with
  | nil =>
      have same : refreshed key id? update ([] : List β) = id := rfl
      simp [same]
  | cons b bs ih =>
      have ids' : (bs.filterMap id?).Nodup :=
        ids.sublist ((List.sublist_cons_self b bs).filterMap id?)
      have fresh' : ∀ c ∈ bs, key (create c) ∉ bs.filterMap id? := fun c mem inside =>
        fresh c (List.mem_cons_of_mem b mem)
          (((List.sublist_cons_self b bs).filterMap id?).subset inside)
      rw [List.foldl_cons, ih ids' fresh']
      cases is : id? b with
      | none =>
          have skip : ∀ a, refreshed key id? update (b :: bs) a =
              refreshed key id? update bs a := by
            intro a
            simp [refreshed, submitted, is]
          have unseen : refreshed key id? update bs (create b) = create b := by
            have none_found : submitted key id? bs (create b) = none := by
              apply List.find?_eq_none.mpr
              intro c mem same
              apply fresh b List.mem_cons_self
              rw [List.filterMap_cons_none is]
              exact List.mem_filterMap.mpr ⟨c, mem, of_decide_eq_true same⟩
            simp [refreshed, none_found]
          simp [put, is, List.map_append, unseen, skip]
      | some k =>
          have step : ∀ a, refreshed key id? update bs (if key a = k then update b a else a) =
              refreshed key id? update (b :: bs) a := by
            intro a
            by_cases same : key a = k
            · -- no later row has the id again
              have none_found : submitted key id? bs (update b a) = none := by
                apply List.find?_eq_none.mpr
                intro c mem again
                rw [List.filterMap_cons_some is] at ids
                apply (List.nodup_cons.mp ids).1
                have named := of_decide_eq_true again
                rw [keep, same] at named
                exact List.mem_filterMap.mpr ⟨c, mem, named⟩
              simp [same, refreshed, none_found]
              simp [submitted, is, same]
            · have other : ¬ k = key a := fun eq => same eq.symm
              simp [same, refreshed, submitted, is, other]
          simp [put, is, List.map_map, Function.comp_def, step]

/-- Writing takes no row away. -/
theorem mem_map_foldl_put (keep : ∀ b a, key (update b a) = key a) {k : κ}
    (mem : k ∈ rows.map key) : k ∈ (bs.foldl (put key id? create update) rows).map key := by
  induction bs generalizing rows with
  | nil => exact mem
  | cons b bs ih =>
      apply ih
      unfold put
      cases id? b with
      | none =>
          rw [List.map_append]
          exact List.mem_append_left _ mem
      | some k' =>
          have same : ∀ a, key (if key a = k' then update b a else a) = key a := by
            intro a
            split
            · exact keep b a
            · rfl
          simpa only [List.map_map, Function.comp_def, same] using mem

/-- How a row of the result stands to what was submitted for it. -/
def Written (key : α → κ) (id? : β → Option κ) (create : β → α) (update : β → α → α)
    (rows : List α) (a : α) (b : β) : Prop :=
  (id? b = none ∧ a = create b) ∨ ∃ old ∈ rows, id? b = some (key old) ∧ a = update b old

theorem forall₂_map_filterMap {γ : Type*} {R : γ → β → Prop} {f : α → γ} {g : α → Option β}
    {l : List α} (each : ∀ a ∈ l, ∃ b, g a = some b ∧ R (f a) b) :
    List.Forall₂ R (l.map f) (l.filterMap g) := by
  induction l with
  | nil => exact List.Forall₂.nil
  | cons a l ih =>
      obtain ⟨b, made, related⟩ := each a List.mem_cons_self
      rw [List.map_cons, List.filterMap_cons_some made]
      exact List.Forall₂.cons related (ih fun c mem => each c (List.mem_cons_of_mem a mem))

/-- Related lists, read from the other side, with the elements at hand. -/
theorem forall₂_flip_of_mem {γ δ : Type*} {R : γ → δ → Prop} {S : δ → γ → Prop} {l : List γ}
    {ys : List δ} (each : List.Forall₂ R l ys) (turn : ∀ a, ∀ b ∈ ys, R a b → S b a) :
    List.Forall₂ S ys l := by
  induction each with
  | nil => exact List.Forall₂.nil
  | @cons a b l ys here _ ih =>
      apply List.Forall₂.cons (turn a b List.mem_cons_self here)
      exact ih fun c d mem => turn c d (List.mem_cons_of_mem b mem)

theorem exists_submitted {a : α} (mem : a ∈ kept key id? rows bs) :
    ∃ b, submitted key id? bs a = some b := by
  obtain ⟨_, again⟩ := List.mem_filter.mp mem
  obtain ⟨b, b_mem, is⟩ := List.any_eq_true.mp again
  cases found : submitted key id? bs a with
  | none => exact absurd is (List.find?_eq_none.mp found b b_mem)
  | some c => exact ⟨c, rfl⟩

/-- The submitted rows that name a row are those of the rows kept. -/
theorem perm_submitted (keys : (rows.map key).Nodup) (ids : (bs.filterMap id?).Nodup)
    (known : ∀ b ∈ bs, ∀ k, id? b = some k → k ∈ rows.map key) :
    ((kept key id? rows bs).filterMap (submitted key id? bs)).Perm
      (bs.filter fun b => !(id? b).isNone) := by
  have distinct : ((kept key id? rows bs).filterMap (submitted key id? bs)).Nodup := by
    apply List.Nodup.of_map id?
    have named : ((kept key id? rows bs).filterMap (submitted key id? bs)).map id? =
        (kept key id? rows bs).map fun a => some (key a) := by
      have each : List.Forall₂ (fun k b => k = id? b)
          ((kept key id? rows bs).map fun a => some (key a))
          ((kept key id? rows bs).filterMap (submitted key id? bs)) := by
        apply forall₂_map_filterMap
        intro a mem
        obtain ⟨b, found⟩ := exists_submitted mem
        exact ⟨b, found, (submitted_eq_some found).2.symm⟩
      have same := List.forall₂_map_right_iff.mpr each
      rw [List.forall₂_eq_eq_eq] at same
      exact same.symm
    rw [named]
    have sub : ((kept key id? rows bs).map key).Nodup :=
      keys.sublist (List.filter_sublist.map key)
    have again := sub.map (fun _ _ => Option.some.inj)
    rwa [List.map_map] at again
  have distinct' : (bs.filter fun b => !(id? b).isNone).Nodup := by
    clear distinct known keys
    induction bs with
    | nil => exact List.nodup_nil
    | cons b bs ih =>
        have rest := ih (ids.sublist ((List.sublist_cons_self b bs).filterMap id?))
        cases is : id? b with
        | none => simpa [is] using rest
        | some k =>
            rw [List.filter_cons_of_pos (by simp [is])]
            apply List.nodup_cons.mpr ⟨_, rest⟩
            intro again
            rw [List.filterMap_cons_some is] at ids
            exact (List.nodup_cons.mp ids).1
              (List.mem_filterMap.mpr ⟨b, (List.mem_filter.mp again).1, is⟩)
  apply (List.perm_ext_iff_of_nodup distinct distinct').mpr
  intro b
  constructor
  · intro mem
    obtain ⟨a, _, found⟩ := List.mem_filterMap.mp mem
    obtain ⟨b_mem, is⟩ := submitted_eq_some found
    exact List.mem_filter.mpr ⟨b_mem, by simp [is]⟩
  · intro mem
    obtain ⟨b_mem, named⟩ := List.mem_filter.mp mem
    obtain ⟨k, is⟩ := Option.isSome_iff_exists.mp (by simpa using named)
    obtain ⟨a, a_mem, rfl⟩ := List.mem_map.mp (known b b_mem k is)
    have a_kept : a ∈ kept key id? rows bs :=
      List.mem_filter.mpr ⟨a_mem, List.any_eq_true.mpr ⟨b, b_mem, decide_eq_true is⟩⟩
    obtain ⟨c, found⟩ := exists_submitted a_kept
    obtain ⟨c_mem, c_is⟩ := submitted_eq_some found
    rw [eq_of_id? ids b_mem c_mem is c_is]
    exact List.mem_filterMap.mpr ⟨a, a_kept, found⟩

/-- The result is the submitted list in some order, each row written as it was submitted. -/
theorem sync_forall₂ (create : β → α) (update : β → α → α)
    (keep : ∀ b a, key (update b a) = key a) (keys : (rows.map key).Nodup)
    (ids : (bs.filterMap id?).Nodup)
    (known : ∀ b ∈ bs, ∀ k, id? b = some k → k ∈ rows.map key)
    (fresh : ∀ b ∈ bs, key (create b) ∉ bs.filterMap id?) :
    ∃ order : List β, order.Perm bs ∧
      List.Forall₂ (Written key id? create update rows) (sync key id? create update rows bs)
        order := by
  refine ⟨(kept key id? rows bs).filterMap (submitted key id? bs) ++
    bs.filter fun b => (id? b).isNone, ?_, ?_⟩
  · have split := List.filter_append_perm (fun b => !(id? b).isNone) bs
    simp only [Bool.not_not] at split
    exact ((perm_submitted keys ids known).append_right _).trans split
  · unfold sync
    rw [foldl_put keep ids fresh]
    apply List.rel_append
    · apply forall₂_map_filterMap
      intro a mem
      obtain ⟨b, found⟩ := exists_submitted mem
      refine ⟨b, found, .inr ⟨a, (List.mem_filter.mp mem).1, (submitted_eq_some found).2, ?_⟩⟩
      simp [refreshed, found]
    · apply List.forall₂_map_left_iff.mpr
      apply List.forall₂_same.mpr
      intro b mem
      exact .inl ⟨by simpa using (List.mem_filter.mp mem).2, rfl⟩

end IccvBackend.Lib
