/-
  File:      Library/Decimal.lean
  Subject:   DECIMAL NUMBERS AS ASCII BYTES: written with the shortest digits, read back to the
             first byte that is no digit.

  * `value_write` -- reading back what was written;
  * `value_take_lt` -- a number that lost its last digits reads as a smaller one.
-/
import Mathlib.Data.Nat.Digits.Lemmas

namespace MinecraftRelay.Decimal

/-- The ASCII byte of a digit. -/
def digit (d : Nat) : UInt8 := UInt8.ofNat (48 + d)

/-- An ASCII digit. -/
def isDigit (b : UInt8) : Bool := 48 ≤ b.toNat ∧ b.toNat ≤ 57

/-- The shortest decimal text of a number. -/
def write (n : Nat) : List UInt8 :=
  if n = 0 then [digit 0] else (Nat.digits 10 n).reverse.map digit

/-- The number a text of digits stands for. -/
def value (s : List UInt8) : Nat := s.foldl (fun m b => 10 * m + (b.toNat - 48)) 0

theorem digit_toNat {d : Nat} (h : d < 10) : (digit d).toNat = 48 + d := by
  unfold digit
  rw [UInt8.toNat_ofNat']
  omega

theorem isDigit_digit {d : Nat} (h : d < 10) : isDigit (digit d) = true := by
  have := digit_toNat h
  simp only [isDigit, decide_eq_true_eq]
  omega

theorem isDigit_ne_zero {b : UInt8} (h : isDigit b = true) : b ≠ 0 := by
  rintro rfl
  exact absurd h (by decide)

theorem isDigit_of_mem_write {n : Nat} {b : UInt8} (h : b ∈ write n) : isDigit b = true := by
  unfold write at h
  split at h
  · rw [List.mem_singleton.1 h]
    exact isDigit_digit (by omega)
  · obtain ⟨d, hd, rfl⟩ := List.mem_map.1 h
    exact isDigit_digit (Nat.digits_lt_base (by omega) (List.mem_reverse.1 hd))

/-- Reading digits off the front is the positional value of the reversed digits. -/
theorem value_map_digit {ds : List Nat} (h : ∀ d ∈ ds, d < 10) :
    value (ds.map digit) = Nat.ofDigits 10 ds.reverse := by
  rw [Nat.ofDigits_eq_foldr, List.foldr_reverse, value, List.foldl_map]
  refine List.foldl_ext _ _ _ fun m d hd => ?_
  rw [digit_toNat (h d hd)]
  simp only [Nat.cast_id]
  omega

/-- **What was written reads back.** -/
theorem value_write (n : Nat) : value (write n) = n := by
  unfold write
  split
  · rename_i h
    rw [h]
    rfl
  · rw [value_map_digit fun d hd =>
      Nat.digits_lt_base (by omega) (List.mem_reverse.1 hd), List.reverse_reverse,
      Nat.ofDigits_digits]

theorem value_lt {s : List UInt8} (h : ∀ b ∈ s, isDigit b = true) : value s < 10 ^ s.length := by
  induction s using List.reverseRecOn with
  | nil => decide
  | append_singleton s b ih =>
    have hs := ih fun c hc => h c (List.mem_append_left _ hc)
    have hb := h b (by simp)
    simp only [isDigit, decide_eq_true_eq] at hb
    have hstep : value (s ++ [b]) = 10 * value s + (b.toNat - 48) := by
      simp [value, List.foldl_append]
    rw [hstep, List.length_append, List.length_singleton, pow_succ]
    omega

theorem write_length_le {n k : Nat} (hk : 0 < k) (h : n < 10 ^ k) : (write n).length ≤ k := by
  unfold write
  split
  · exact hk
  · rw [List.length_map, List.length_reverse]
    exact (Nat.digits_length_le_iff (by omega) n).2 h

/-- **A number that lost its last digits reads as a smaller one.** -/
theorem value_take_lt {n k : Nat} (hn : n ≠ 0) (hk : k < (write n).length) :
    value ((write n).take k) < n := by
  have hlength : (write n).length = (Nat.digits 10 n).length := by
    unfold write
    rw [if_neg hn, List.length_map, List.length_reverse]
  have hsize := Nat.base_pow_length_digits_le 10 n (by omega) hn
  have htake : ((write n).take k).length = k := by
    rw [List.length_take]
    omega
  have hlt := value_lt (s := (write n).take k)
    fun b hb => isDigit_of_mem_write (List.mem_of_mem_take hb)
  rw [htake] at hlt
  have hpow : 10 ^ (k + 1) ≤ 10 ^ (Nat.digits 10 n).length :=
    Nat.pow_le_pow_right (by omega) (by omega)
  rw [pow_succ] at hpow
  omega

end MinecraftRelay.Decimal
