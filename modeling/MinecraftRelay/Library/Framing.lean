/-
  File:      Library/Framing.lean
  Subject:   The streaming law of a framing function, one byte string at a time.

  A framing function looks at what has arrived so far and answers how long the first unit is, or
  how many bytes it must see before it can say more. `LawfulAt f s` says that the answer at `s`
  binds every extension of `s`. The four introduction rules are the four ways a framing function
  may answer; a branch of a concrete one is discharged by the rule that fits it.
-/
import Mathlib.Data.List.Basic

namespace Framing

/-- What a framing function says about the bytes so far. -/
inductive Status where
  | ambiguous
  | complete
  | incomplete
  | invalid
  deriving DecidableEq, Repr

variable {α : Type} {f : List α → Status × Nat} {s : List α} {n : Nat}

/-- The answer of `f` at `s` binds every extension of `s`. -/
structure LawfulAt (f : List α → Status × Nat) (s : List α) : Prop where
  complete : ∀ n, f s = (.complete, n) → n ≤ s.length ∧ ∀ t, f (s ++ t) = (.complete, n)
  invalid : (f s).1 = .invalid → ∀ t, (f (s ++ t)).1 = .invalid
  incomplete : ∀ n, f s = (.incomplete, n) →
    s.length < n ∧ ∀ t, (s ++ t).length < n → (f (s ++ t)).1 ≠ .complete

/-- The unit is in `s`, and no extension changes its size. -/
theorem LawfulAt.of_complete (hn : n ≤ s.length) (h : ∀ t, f (s ++ t) = (.complete, n)) :
    LawfulAt f s := by
  have h0 : f s = (.complete, n) := by simpa using h []
  refine ⟨fun m hm => ?_, fun hi => ?_, fun m hm => ?_⟩
  · rw [h0] at hm
    cases hm
    exact ⟨hn, h⟩
  · rw [h0] at hi
    cases hi
  · rw [h0] at hm
    cases hm

/-- No extension is accepted. -/
theorem LawfulAt.of_invalid (h : ∀ t, (f (s ++ t)).1 = .invalid) : LawfulAt f s := by
  have h0 : (f s).1 = .invalid := by simpa using h []
  refine ⟨fun m hm => ?_, fun _ => h, fun m hm => ?_⟩ <;>
  · rw [hm] at h0
    cases h0

/-- Every extension short of `n` gets the same answer: wait for `n` bytes. -/
theorem LawfulAt.of_await (hn : s.length < n)
    (h : ∀ t, (s ++ t).length < n → f (s ++ t) = (.incomplete, n)) : LawfulAt f s := by
  have h0 : f s = (.incomplete, n) := by simpa using h [] (by simpa using hn)
  refine ⟨fun m hm => ?_, fun hi => ?_, fun m hm => ?_⟩
  · rw [h0] at hm
    cases hm
  · rw [h0] at hi
    cases hi
  · rw [h0] at hm
    cases hm
    refine ⟨hn, fun t ht hc => ?_⟩
    rw [h t ht] at hc
    cases hc

/-- One more byte is asked for: no proper extension is shorter than that. -/
theorem LawfulAt.of_next (h : f s = (.incomplete, s.length + 1)) : LawfulAt f s := by
  refine LawfulAt.of_await (n := s.length + 1) (by omega) fun t ht => ?_
  have ht' : t = [] := by
    rw [List.length_append] at ht
    exact List.eq_nil_of_length_eq_zero (by omega)
  rw [ht', List.append_nil]
  exact h

/-- An ambiguous answer promises nothing. -/
theorem LawfulAt.of_ambiguous (h : f s = (.ambiguous, n)) : LawfulAt f s := by
  refine ⟨fun m hm => ?_, fun hi => ?_, fun m hm => ?_⟩
  · rw [h] at hm
    cases hm
  · rw [h] at hi
    cases hi
  · rw [h] at hm
    cases hm

/-- A unit of size `n` that is read off a header already in `s`: wait for the rest of it, or it is
    there. -/
theorem LawfulAt.of_sized
    (h : ∀ t, f (s ++ t) = (if (s ++ t).length < n then .incomplete else .complete, n)) :
    LawfulAt f s := by
  by_cases hn : s.length < n
  · exact .of_await hn fun t ht => by rw [h t, if_pos ht]
  · refine .of_complete (n := n) (by omega) fun t => ?_
    rw [h t, if_neg (by rw [List.length_append]; omega)]

end Framing
