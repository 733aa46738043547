/-
  File:      Library/Window.lean
  Subject:   A WINDOW OF LIVE ELEMENTS IN A FIXED ARRAY.

  A byte queue over a C array keeps its live elements between two positions: elements are written
  behind the window, leave it at the front, and now and then the window is moved to the front of the
  array.  What the queue holds is the window; the three operations are the list operations on it.

  * `window_drop`, `window_overwrite`, `window_front` -- take from the front, write behind, move.
-/
import Mathlib.Init

namespace MinecraftRelay
namespace Window

variable {α : Type}

/-- The `size` elements from `offset` on. -/
def window (data : List α) (offset size : Nat) : List α := (data.drop offset).take size

/-- `memcpy` into the array: `elements` from `position` on. -/
def overwrite (data : List α) (position : Nat) (elements : List α) : List α :=
  data.take position ++ elements ++ data.drop (position + elements.length)

theorem window_length {data : List α} {offset size : Nat} (h : offset + size ≤ data.length) :
    (window data offset size).length = size := by
  rw [window, List.length_take, List.length_drop]
  omega

theorem window_zero (data : List α) (offset : Nat) : window data offset 0 = [] := List.take_zero

theorem overwrite_length {data elements : List α} {position : Nat}
    (h : position + elements.length ≤ data.length) :
    (overwrite data position elements).length = data.length := by
  simp only [overwrite, List.length_append, List.length_take, List.length_drop]
  omega

theorem window_drop (data : List α) (offset size n : Nat) :
    window data (offset + n) (size - n) = (window data offset size).drop n := by
  rw [window, window, List.drop_take, List.drop_drop]

theorem window_overwrite {data elements : List α} {offset size : Nat}
    (h : offset + size + elements.length ≤ data.length) :
    window (overwrite data (offset + size) elements) offset (size + elements.length) =
      window data offset size ++ elements := by
  have htake : (data.take (offset + size)).length = offset + size :=
    List.length_take_of_le (by omega)
  have hfront : (data.take (offset + size) ++ elements).length =
      offset + (size + elements.length) := by
    rw [List.length_append, htake, Nat.add_assoc]
  calc window (overwrite data (offset + size) elements) offset (size + elements.length)
      = ((overwrite data (offset + size) elements).take
          (offset + (size + elements.length))).drop offset := by
        rw [window, List.drop_take, Nat.add_sub_cancel_left]
    _ = (data.take (offset + size) ++ elements).drop offset := by
        rw [overwrite, ← hfront, List.take_left]
    _ = (data.take (offset + size)).drop offset ++ elements :=
        List.drop_append_of_le_length (by omega)
    _ = window data offset size ++ elements := by
        rw [List.drop_take, Nat.add_sub_cancel_left, window]

/-- A transfer that takes `n` elements, or as many as there are. -/
theorem take_length_take (l : List α) (n : Nat) :
    l.take (l.take n).length = l.take n := by
  rw [List.length_take, List.take_eq_take_iff]
  omega

/-- Written over the front of the array, the elements are the window there. -/
theorem window_front {data elements : List α} {size : Nat} (h : elements.length = size) :
    window (overwrite data 0 elements) 0 size = elements := by
  rw [window, overwrite, List.take_zero, List.nil_append, List.drop_zero, ← h, List.take_left]

end Window
end MinecraftRelay
