/-
  File:      Library/Placement.lean
  Subject:   ITEMS IN LISTS, EACH IN THE ONE LIST ITS STATE SAYS.  Names no program.

  Intrusive lists (queues, hash chains, owner slots) keep every item in at most one of several
  lists, and which one is a function of the item's own fields.  `Holds lists place` says that
  the lists agree with that function: list `k` has no duplicates and its members are the items
  placed at `k`.

  * `Holds.remove`, `Holds.insert`, `Holds.cons`, `Holds.append` -- taking an item out of its list
    and putting an item that is nowhere into one;
  * `chain n lists` -- the first `n` lists one after another, as a walk over a hash table reads
    them; its members are the placed items, and it follows the updates up to order;
  * `sum_map_change` -- a sum over the items when the share of one of them changes.
-/
import Mathlib.Logic.Function.Basic
import Mathlib.Data.List.Nodup
import Mathlib.Algebra.BigOperators.Group.List.Basic
import Mathlib.Algebra.Order.Ring.Nat

namespace Placement

open Function (update update_apply update_eq_self update_idem update_of_ne update_self)

variable {κ α : Type} [DecidableEq κ] [DecidableEq α]

/-- The lists hold each item exactly where it is placed. -/
structure Holds (lists : κ → List α) (place : α → Option κ) : Prop where
  nodup : ∀ k, (lists k).Nodup
  mem : ∀ k a, a ∈ lists k ↔ place a = some k

omit [DecidableEq κ] in
/-- What a table holds after one item was written. -/
theorem update_some {β : Type} {f : α → Option β} {a x : α} {v y : β}
    (h : update f a (some v) x = some y) : (x = a ∧ y = v) ∨ (x ≠ a ∧ f x = some y) := by
  grind [update_apply]

omit [DecidableEq κ] in
/-- What is left after one item was removed. -/
theorem update_none {β : Type} {f : α → Option β} {a x : α} {y : β}
    (h : update f a none x = some y) : x ≠ a ∧ f x = some y := by
  grind [update_apply]

omit [DecidableEq κ] in
/-- A table is written, seen through the keys of its items. -/
theorem map_update {β : Type} (f : α → Option β) (g : β → κ) (a : α) (v : Option β) :
    (fun x => (update f a v x).map g) = update (fun x => (f x).map g) a (v.map g) :=
  Function.comp_update (Option.map g) f a v

namespace Holds

variable {lists : κ → List α} {place : α → Option κ} (h : Holds lists place) {a : α}

include h

omit [DecidableEq κ] [DecidableEq α] in
/-- Nothing is in a list but where it is placed. -/
theorem not_mem (ha : place a = none) (k : κ) : a ∉ lists k := by
  rw [h.mem, ha]
  exact fun hk => nomatch hk

/-- An item is taken out of its list. -/
theorem remove {k : κ} (ha : place a = some k) :
    Holds (update lists k ((lists k).erase a)) (update place a none) := by
  refine ⟨fun k' => ?_, fun k' b => ?_⟩
  · rw [update_apply]
    split
    · exact (h.nodup k).erase a
    · exact h.nodup k'
  · have hmem := h.mem k' b
    have herase := (h.nodup k).mem_erase_iff (a := b) (b := a)
    grind [update_apply]

/-- An item that is nowhere enters a list, at any position. -/
theorem insert {k : κ} {l : List α} (ha : place a = none) (hl : l.Perm (a :: lists k)) :
    Holds (update lists k l) (update place a (some k)) := by
  have hnot := h.not_mem ha k
  refine ⟨fun k' => ?_, fun k' b => ?_⟩
  · rw [update_apply]
    split
    · rw [hl.nodup_iff]
      exact List.nodup_cons.2 ⟨hnot, h.nodup k⟩
    · exact h.nodup k'
  · have hmem := h.mem k' b
    have hlist : b ∈ l ↔ b ∈ a :: lists k := hl.mem_iff
    grind [update_apply]

theorem cons {k : κ} (ha : place a = none) :
    Holds (update lists k (a :: lists k)) (update place a (some k)) :=
  h.insert ha (List.Perm.refl _)

theorem append {k : κ} (ha : place a = none) :
    Holds (update lists k (lists k ++ [a])) (update place a (some k)) :=
  h.insert ha (List.perm_append_singleton a (lists k))

end Holds

/-! ## The walk over all lists of a table -/

/-- A sum over distinct items in which one item's share changes. -/
theorem sum_map_change {l : List α} (hl : l.Nodup) {a : α} (ha : a ∈ l) {w v : α → Nat}
    (hother : ∀ x, x ≠ a → v x = w x) :
    (l.map v).sum + w a = (l.map w).sum + v a := by
  have hperm := List.perm_cons_erase ha
  have hrest : (l.erase a).map v = (l.erase a).map w := by
    apply List.map_congr_left
    intro x hx
    exact hother x (hl.mem_erase_iff.1 hx).1
  rw [(hperm.map v).sum_eq, (hperm.map w).sum_eq, List.map_cons, List.map_cons, List.sum_cons,
    List.sum_cons, hrest]
  omega

/-- The first `n` lists, one after another. -/
def chain (n : Nat) (lists : Nat → List α) : List α := (List.range n).flatMap lists

section Chain

variable {lists : Nat → List α} {place : α → Option Nat} {n : Nat}

omit [DecidableEq α] in
theorem mem_chain (h : Holds lists place) (hn : ∀ a k, place a = some k → k < n) (a : α) :
    a ∈ chain n lists ↔ place a ≠ none := by
  unfold chain
  rw [List.mem_flatMap, Option.ne_none_iff_exists']
  constructor
  · intro hk
    obtain ⟨k, _, hk⟩ := hk
    exact ⟨k, (h.mem k a).1 hk⟩
  · intro hk
    obtain ⟨k, hk⟩ := hk
    exact ⟨k, List.mem_range.2 (hn a k hk), (h.mem k a).2 hk⟩

omit [DecidableEq α] in
theorem nodup_chain (h : Holds lists place) : (chain n lists).Nodup := by
  unfold chain
  rw [List.nodup_flatMap]
  refine ⟨fun k _ => h.nodup k, ?_⟩
  refine List.nodup_range.imp ?_
  intro i j hij a hi hj
  rw [h.mem] at hi hj
  rw [hi] at hj
  exact hij (Option.some.inj hj)

omit [DecidableEq α] in
/-- An item that enters one of the lists enters the walk. -/
theorem chain_insert_perm (lists : Nat → List α) {k : Nat} (hk : k < n) {a : α} {l : List α}
    (hl : l.Perm (a :: lists k)) :
    (chain n (update lists k l)).Perm (a :: chain n lists) := by
  unfold chain
  induction n with
  | zero => exact absurd hk (Nat.not_lt_zero k)
  | succ n ih =>
    rw [List.range_succ, List.flatMap_append, List.flatMap_append, List.flatMap_singleton,
      List.flatMap_singleton]
    by_cases hkn : k = n
    · -- the walk before the last list does not see the update
      subst hkn
      have hsame : (List.range k).flatMap (update lists k l)
          = (List.range k).flatMap lists := by
        apply List.flatMap_congr
        intro i hi
        exact update_of_ne (Nat.ne_of_lt (List.mem_range.1 hi)) l lists
      rw [hsame, update_self]
      exact (hl.append_left _).trans List.perm_middle
    · rw [update_of_ne (Ne.symm hkn)]
      exact (ih (by omega)).append_right _

/-- An item taken out of its list leaves the walk. -/
theorem chain_erase_perm {k : Nat} (hk : k < n) {a : α} (ha : a ∈ lists k) :
    (chain n lists).Perm (a :: chain n (update lists k ((lists k).erase a))) := by
  have h := chain_insert_perm (update lists k ((lists k).erase a)) hk
    (a := a) (l := lists k) (by rw [update_self]; exact List.perm_cons_erase ha)
  rwa [update_idem, update_eq_self] at h

omit [DecidableEq α] in
theorem length_chain_cons {k : Nat} (hk : k < n) (a : α) :
    (chain n (update lists k (a :: lists k))).length = (chain n lists).length + 1 :=
  (chain_insert_perm lists hk (List.Perm.refl _)).length_eq

theorem length_chain_erase {k : Nat} (hk : k < n) {a : α} (ha : a ∈ lists k) :
    (chain n (update lists k ((lists k).erase a))).length + 1
      = (chain n lists).length :=
  (chain_erase_perm hk ha).length_eq.symm

end Chain

end Placement
