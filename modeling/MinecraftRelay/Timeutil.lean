/-
  File:      Timeutil.lean
  Subject:   MONOTONIC TIMESTAMPS (src/timeutil.c).

  A `struct timespec` is a pair of signed integers.  The code never adds to a timestamp without
  checking that the sum still is one, so every sum below is an `Option`.

  * `timeutilAddMilliseconds_spec`, `timeutilAddSeconds_spec` -- what callers use: a sum that
    succeeds is a valid timestamp not before its source.
-/
import Mathlib.Algebra.Order.Ring.Nat

namespace MinecraftRelay

/-- `struct timespec`: seconds (`time_t`) and nanoseconds (`long`), both signed. -/
@[ext]
structure Timespec where
  sec : Int
  nsec : Int
deriving Repr, DecidableEq

/-- The largest `time_t`. -/
def timeMax : Int := 9223372036854775807

/-- `UINTMAX_MAX` and `UINT64_MAX`. -/
def uint64Max : Nat := 18446744073709551615

namespace Timespec

/-- The order `timeutil_compare` decides: by seconds, then by nanoseconds. -/
instance : LinearOrder Timespec where
  le left right := left.sec < right.sec ∨ left.sec = right.sec ∧ left.nsec ≤ right.nsec
  lt left right := left.sec < right.sec ∨ left.sec = right.sec ∧ left.nsec < right.nsec
  le_refl a := Or.inr ⟨rfl, Int.le_refl _⟩
  le_trans a b c hab hbc := by omega
  lt_iff_le_not_ge a b := by
    constructor
    · intro h
      omega
    · intro h
      omega
  le_antisymm a b hab hba := by
    ext
    · omega
    · omega
  le_total a b := by omega
  toDecidableLE a b := inferInstanceAs (Decidable (_ ∨ _))
  toDecidableLT a b := inferInstanceAs (Decidable (_ ∨ _))

theorem le_def {a b : Timespec} :
    a ≤ b ↔ a.sec < b.sec ∨ a.sec = b.sec ∧ a.nsec ≤ b.nsec := Iff.rfl

theorem lt_def {a b : Timespec} :
    a < b ↔ a.sec < b.sec ∨ a.sec = b.sec ∧ a.nsec < b.nsec := Iff.rfl

end Timespec

/-- `timeutil_compare`, with the sign of the returned integer. -/
def timeutilCompare (left right : Timespec) : Ordering :=
  if left.sec ≠ right.sec then
    if left.sec < right.sec then .lt else .gt
  else if left.nsec ≠ right.nsec then
    if left.nsec < right.nsec then .lt else .gt
  else .eq

@[simp] theorem timeutilCompare_eq_lt (a b : Timespec) : timeutilCompare a b = .lt ↔ a < b := by
  rw [Timespec.lt_def]
  unfold timeutilCompare
  split
  · split
    · simp only [true_iff]
      omega
    · simp only [reduceCtorEq, false_iff]
      omega
  · split
    · split
      · simp only [true_iff]
        omega
      · simp only [reduceCtorEq, false_iff]
        omega
    · simp only [reduceCtorEq, false_iff]
      omega

@[simp] theorem timeutilCompare_eq_gt (a b : Timespec) : timeutilCompare a b = .gt ↔ b < a := by
  rw [Timespec.lt_def]
  unfold timeutilCompare
  split
  · split
    · simp only [reduceCtorEq, false_iff]
      omega
    · simp only [true_iff]
      omega
  · split
    · split
      · simp only [reduceCtorEq, false_iff]
        omega
      · simp only [true_iff]
        omega
    · simp only [reduceCtorEq, false_iff]
      omega

/-- `timeutil_valid`. -/
def timeutilValid (value : Timespec) : Bool :=
  decide (0 ≤ value.sec) && decide (0 ≤ value.nsec) && decide (value.nsec < 1000000000)

theorem timeutilValid_iff {value : Timespec} :
    timeutilValid value = true ↔ 0 ≤ value.sec ∧ 0 ≤ value.nsec ∧ value.nsec < 1000000000 := by
  simp [timeutilValid, and_assoc]

/-- `timeutil_add_milliseconds`; `milliseconds` is a `uint64_t`. -/
def timeutilAddMilliseconds (source : Timespec) (milliseconds : Nat) : Option Timespec :=
  if ¬ timeutilValid source then none
  else
    let nanoseconds := (milliseconds % 1000) * 1000000 + source.nsec.toNat
    let addedSeconds := milliseconds / 1000 + nanoseconds / 1000000000
    let addedNanoseconds := nanoseconds % 1000000000
    if source.sec.toNat > uint64Max - addedSeconds then none
    else
      let combined := source.sec.toNat + addedSeconds
      -- the cast to time_t round-trips exactly for the values up to its maximum
      if (combined : Int) > timeMax then none
      else some ⟨combined, addedNanoseconds⟩

/-- `timeutil_add_seconds`; `seconds` is a `uint64_t`. -/
def timeutilAddSeconds (source : Timespec) (seconds : Nat) : Option Timespec :=
  if ¬ timeutilValid source ∨ source.sec.toNat > uint64Max - seconds then none
  else
    let combined := source.sec.toNat + seconds
    if (combined : Int) > timeMax then none
    else some ⟨combined, source.nsec⟩

section

variable {source result : Timespec}

theorem timeutilAddMilliseconds_spec {milliseconds : Nat}
    (h : timeutilAddMilliseconds source milliseconds = some result) :
    timeutilValid source = true ∧ timeutilValid result = true ∧
      result.sec * 1000000000 + result.nsec
        = source.sec * 1000000000 + source.nsec + milliseconds * 1000000 := by
  unfold timeutilAddMilliseconds at h
  split at h
  · cases h
  rename_i hv
  simp only [Bool.not_eq_true, Bool.not_eq_false] at hv
  dsimp only at h
  split at h
  · cases h
  split at h
  · cases h
  cases h
  refine ⟨hv, ?_, ?_⟩
  · rw [timeutilValid_iff] at hv ⊢
    simp only
    omega
  · rw [timeutilValid_iff] at hv
    simp only
    omega

theorem timeutilAddSeconds_spec {seconds : Nat}
    (h : timeutilAddSeconds source seconds = some result) :
    timeutilValid source = true ∧ timeutilValid result = true ∧
      result.sec = source.sec + seconds ∧ result.nsec = source.nsec := by
  unfold timeutilAddSeconds at h
  split at h
  · cases h
  rename_i hv
  simp only [Bool.not_eq_true, not_or, Bool.not_eq_false] at hv
  dsimp only at h
  split at h
  · cases h
  cases h
  obtain ⟨hv, -⟩ := hv
  have := timeutilValid_iff.1 hv
  refine ⟨hv, ?_, ?_, rfl⟩
  · rw [timeutilValid_iff]
    simp only
    omega
  · simp only
    omega

/-- A sum is after its source when something is added. -/
theorem timeutilAddMilliseconds_lt {milliseconds : Nat}
    (h : timeutilAddMilliseconds source milliseconds = some result) (hpos : 0 < milliseconds) :
    source < result := by
  obtain ⟨hs, hr, e⟩ := timeutilAddMilliseconds_spec h
  rw [timeutilValid_iff] at hs hr
  rw [Timespec.lt_def]
  omega

theorem timeutilAddSeconds_lt {seconds : Nat} (h : timeutilAddSeconds source seconds = some result)
    (hpos : 0 < seconds) : source < result := by
  obtain ⟨-, -, e, -⟩ := timeutilAddSeconds_spec h
  rw [Timespec.lt_def]
  omega

end

/-- A time that is not moved when the sum cannot be represented stays valid. -/
theorem timeutilAddMilliseconds_getD_valid {source : Timespec} (h : timeutilValid source = true)
    (milliseconds : Nat) :
    timeutilValid ((timeutilAddMilliseconds source milliseconds).getD source) = true := by
  cases hsum : timeutilAddMilliseconds source milliseconds with
  | none => exact h
  | some result => exact (timeutilAddMilliseconds_spec hsum).2.1

theorem timeutilAddSeconds_getD_valid {source : Timespec} (h : timeutilValid source = true)
    (seconds : Nat) : timeutilValid ((timeutilAddSeconds source seconds).getD source) = true := by
  cases hsum : timeutilAddSeconds source seconds with
  | none => exact h
  | some result => exact (timeutilAddSeconds_spec hsum).2.1

end MinecraftRelay
