/-
  File:      Basic.lean
  Subject:   BUFFERS AND C STRINGS, shared by every component.
-/
import Mathlib.Algebra.Order.Ring.Nat
import Mathlib.Data.List.TakeWhile

namespace MinecraftRelay

/-- Raw bytes of a buffer. -/
abbrev Bytes := List UInt8

/-- `SIZE_MAX` of a 64-bit host. -/
def sizeMax : Nat := 2 ^ 64 - 1

/-- `INT_MIN` and `INT_MAX`. -/
def intMin : Int := -2147483648

@[inherit_doc intMin]
def intMax : Int := 2147483647

/-- `PATH_MAX`. -/
def pathMax : Nat := 4096

/-- `CONF_ICON_B64MAX`. -/
def confIconB64max : Nat := 7000

/-- The C string at the start of a NUL-terminated buffer. -/
def cString (buffer : Bytes) : Bytes := buffer.takeWhile (· ≠ 0)

/-- The bytes of a C string literal. -/
def ascii (text : String) : Bytes := text.toList.map fun c => UInt8.ofNat c.toNat

/-- A buffer without NUL is its own C string. -/
theorem cString_of_not_mem {b : Bytes} (h : (0 : UInt8) ∉ b) : cString b = b := by
  unfold cString
  rw [List.takeWhile_eq_self_iff]
  intro x hx
  simp only [decide_eq_true_eq]
  intro hzero
  subst hzero
  exact h hx

/-- What follows the first NUL is not part of the C string. -/
theorem cString_append_zero {b : Bytes} (h : (0 : UInt8) ∉ b) (t : Bytes) :
    cString (b ++ 0 :: t) = b := by
  unfold cString
  rw [List.takeWhile_append_of_pos fun x hx => ?_]
  · simp
  · simp only [decide_eq_true_eq]
    rintro rfl
    exact h hx

theorem not_mem_cString (b : Bytes) : (0 : UInt8) ∉ cString b := by
  intro h
  have := List.mem_takeWhile_imp h
  simp at this

/-- What holds of all 256 bytes holds of every byte. -/
theorem forall_byte {P : UInt8 → Prop} (h : ∀ n : Fin 256, P ⟨⟨n⟩⟩) : ∀ c, P c :=
  fun c => h c.toBitVec.toFin

end MinecraftRelay
