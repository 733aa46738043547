/-
  File:      Library/Ledger.lean
  Subject:   TOTALS OVER A COLLECTION WHOSE ITEMS CHANGE ONE AT A TIME.  Names no program.

  A ledger entry says what its owners hold.  To keep it exact, a step has to know what the change
  of one owner does to the total: the old share goes, the new share comes.  The equations are
  additive, so that no subtraction is needed.
-/
import Mathlib.Algebra.BigOperators.Group.Finset.Basic
import Mathlib.Algebra.BigOperators.Group.Finset.Piecewise
import Mathlib.Algebra.Order.BigOperators.Group.List
import Mathlib.Algebra.Order.Ring.Nat

namespace MinecraftRelay.Ledger

variable {α : Type} {l : List α} {i : Nat} {a : α}

theorem sum_map_eraseIdx (share : α → Nat) (h : l[i]? = some a) :
    ((l.eraseIdx i).map share).sum + share a = (l.map share).sum := by
  obtain ⟨hi, rfl⟩ := List.getElem?_eq_some_iff.1 h
  have hsum := ((List.getElem_cons_eraseIdx_perm hi).map share).sum_eq
  rw [List.map_cons, List.sum_cons] at hsum
  omega

theorem sum_map_set (share : α → Nat) (h : l[i]? = some a) (b : α) :
    ((l.set i b).map share).sum + share a = (l.map share).sum + share b := by
  have hrest := sum_map_eraseIdx share h
  have hi := (List.getElem?_eq_some_iff.1 h).1
  have hsum := ((List.set_perm_cons_eraseIdx hi b).map share).sum_eq
  rw [List.map_cons, List.sum_cons] at hsum
  omega

/-- A share is within the total. -/
theorem share_le_sum (share : α → Nat) (h : a ∈ l) : share a ≤ (l.map share).sum :=
  List.single_le_sum (fun _ _ => Nat.zero_le _) _ (List.mem_map_of_mem h)

/-- One place of a heap changes, which has `n` places. -/
theorem sum_range_update {heap : Nat → α} {n j : Nat} (share : α → Nat) (h : j < n) (b : α) :
    (∑ k ∈ Finset.range n, share (Function.update heap j b k)) + share (heap j) =
      (∑ k ∈ Finset.range n, share (heap k)) + share b := by
  have hmem : j ∈ Finset.range n := Finset.mem_range.2 h
  rw [← Finset.add_sum_erase _ _ hmem, ← Finset.add_sum_erase _ (fun k => share (heap k)) hmem,
    Function.update_self]
  have hrest : ∑ k ∈ (Finset.range n).erase j, share (Function.update heap j b k) =
      ∑ k ∈ (Finset.range n).erase j, share (heap k) := by
    refine Finset.sum_congr rfl fun k hk => ?_
    rw [Function.update_of_ne (Finset.ne_of_mem_erase hk)]
  rw [hrest]
  omega

/-- A heap gets one more place. -/
theorem sum_range_grow {heap : Nat → α} {n : Nat} (share : α → Nat) (b : α) :
    ∑ k ∈ Finset.range (n + 1), share (Function.update heap n b k) =
      (∑ k ∈ Finset.range n, share (heap k)) + share b := by
  rw [Finset.sum_range_succ, Function.update_self]
  congr 1
  refine Finset.sum_congr rfl fun k hk => ?_
  rw [Function.update_of_ne (Finset.mem_range.1 hk).ne]

/-- A list that holds the indices with a property once each counts what the sum over all does. -/
theorem countP_eq_sum_range {l : List Nat} (hl : l.Nodup) (p : Nat → Bool) {n : Nat}
    (h : ∀ k, p k = true → (k ∈ l ↔ k < n)) :
    l.countP p = ∑ k ∈ Finset.range n, if p k = true then 1 else 0 := by
  rw [List.countP_eq_length_filter, ← List.toFinset_card_of_nodup (hl.filter _),
    ← Finset.card_filter]
  congr 1
  ext k
  simp only [List.mem_toFinset, List.mem_filter, Finset.mem_filter, Finset.mem_range]
  exact and_congr_left (h k)

end MinecraftRelay.Ledger
